import SandPlatform.Xml.Parser

/-!
# The language of the parser

What the parser accepts, as relations between the text before and the text after what is
read.  An end tag may have attributes.  A text keeps the blanks in front of it, and no
other node does.
-/

namespace SandPlatform.Xml

open SandPlatform.Foundation

/-! ## Attributes -/

/-- A name, an equals sign and a value in quotes, which is free of them. -/
inductive ReadsAttribute (processEntities : Bool) : Text → Attribute StrPair → Text → Prop
  | mk {name blanks blanks' value rest : Text} {quote : Byte}
      (isName : IsName name) (blank : Blank blanks) (blank' : Blank blanks')
      (isQuote : quote = doubleQuote ∨ quote = singleQuote) (clean : quote ∉ value) :
      ReadsAttribute processEntities
        (name ++ (blanks ++ byte '=' :: (blanks' ++ quote :: (value ++ quote :: rest))))
        ⟨⟨name, blanks ++ byte '=' :: (blanks' ++ quote :: (value ++ quote :: rest)), Flags.none⟩,
          ⟨value, quote :: rest, attributeFlags processEntities⟩⟩
        rest

/-- Attributes, each with blanks in front of it. -/
inductive ReadsAttributes (processEntities : Bool) :
    Text → List (Attribute StrPair) → Text → Prop
  | nil (p : Text) : ReadsAttributes processEntities p [] p
  | cons {blanks p p' rest : Text} {attrib : Attribute StrPair}
      {attributes : List (Attribute StrPair)} (blank : Blank blanks)
      (first : ReadsAttribute processEntities p attrib p')
      (others : ReadsAttributes processEntities p' attributes rest) :
      ReadsAttributes processEntities (blanks ++ p) (attrib :: attributes) rest

/-- The end of a tag. -/
inductive ReadsEnd : Text → Bool → Text → Prop
  | closed {blanks : Text} (rest : Text) (blank : Blank blanks) :
      ReadsEnd (blanks ++ byte '/' :: byte '>' :: rest) true rest
  | plain {blanks : Text} (rest : Text) (blank : Blank blanks) :
      ReadsEnd (blanks ++ byte '>' :: rest) false rest

/-- No attrib has the name of an earlier one. -/
def Distinct (attributes : List (Attribute StrPair)) : Prop :=
  attributes.Pairwise fun a b => sameString a.name.text b.name.text = false

/-! ## Tags -/

/-- The slash in front of the name of an end tag. -/
def slash (closing : Bool) : Text :=
  if closing then [byte '/'] else []

/-- What the slashes of a tag say. -/
def closingTypeOf (closed closing : Bool) : ClosingType :=
  if closed then .closed else if closing then .closing else .open

/-- A tag behind its angle bracket. -/
inductive ReadsTag (processEntities : Bool) :
    Text → StrPair → List (Attribute StrPair) → ClosingType → Text → Prop
  | mk {blanks name p p' rest : Text} {attributes : List (Attribute StrPair)}
      {closing closed : Bool} (blank : Blank blanks) (isName : IsName name)
      (ends : EndsRun isNameChar p) (reads : ReadsAttributes processEntities p attributes p')
      (distinct : Distinct attributes) (readsEnd : ReadsEnd p' closed rest) :
      ReadsTag processEntities (blanks ++ (slash closing ++ (name ++ p))) ⟨name, p, Flags.none⟩
        attributes (closingTypeOf closed closing) rest

/-- An end tag with its angle bracket. -/
inductive ReadsEndTag (processEntities : Bool) : Text → StrPair → Text → Prop
  | mk {blanks p rest : Text} {name : StrPair} {attributes : List (Attribute StrPair)}
      (blank : Blank blanks) (reads : ReadsTag processEntities p name attributes .closing rest) :
      ReadsEndTag processEntities (blanks ++ byte '<' :: p) name rest

/-! ## Nodes -/

namespace LeafKind

/-- What a leaf begins with. -/
def header : LeafKind → Text
  | text => []
  | cdata => cdataHeader
  | comment => commentHeader
  | declaration => xmlHeader
  | unknown => dtdHeader

/-- What a leaf ends with; a text ends in front of the next bracket. -/
def ender : LeafKind → Text
  | text => elementHeader
  | cdata => cdataEnd
  | comment => commentEnd
  | declaration => xmlEnd
  | unknown => dtdEnd

/-- How the value of a leaf is to be processed. -/
def flags (processEntities : Bool) : LeafKind → Flags
  | text => textFlags processEntities
  | comment => Flags.comment
  | _ => Flags.needsNewline

end LeafKind

/-- What is unknown does not begin like a comment or a `CDATA` text. -/
def Unknowable (value : Text) : Prop :=
  ¬ bytes ['-', '-'] <+: value ∧ ¬ bytes ['[', 'C', 'D', 'A', 'T', 'A', '['] <+: value

/-- A node without children: a text up to the next bracket, or blanks and a markup that has
no ender inside. -/
inductive ReadsLeaf (processEntities : Bool) : Text → Leaf StrPair → Text → Prop
  | text {value rest : Text} (shown : ¬ Blank value) (clean : byte '<' ∉ value)
      (more : rest ≠ []) :
      ReadsLeaf processEntities (value ++ byte '<' :: rest)
        ⟨.text, ⟨value, byte '<' :: rest, textFlags processEntities⟩⟩ (byte '<' :: rest)
  | markup {kind : LeafKind} {blanks value : Text} (rest : Text) (blank : Blank blanks)
      (isMarkup : kind ≠ .text) (clean : ¬ kind.ender <:+: value)
      (other : kind = .unknown → Unknowable value) :
      ReadsLeaf processEntities (blanks ++ (kind.header ++ (value ++ (kind.ender ++ rest))))
        ⟨kind, ⟨value, kind.ender ++ rest, kind.flags processEntities⟩⟩ rest

/-- A text that begins with nodes. -/
inductive Reads (processEntities : Bool) : Text → Nodes StrPair → Text → Prop
  | nil (p : Text) : Reads processEntities p .nil p
  | leaf {p p' rest : Text} {node : Leaf StrPair} {next : Nodes StrPair}
      (first : ReadsLeaf processEntities p node p')
      (others : Reads processEntities p' next rest) :
      Reads processEntities p (.leaf node next) rest
  | closed {blanks p p' rest : Text} {name : StrPair} {attributes : List (Attribute StrPair)}
      {next : Nodes StrPair} (blank : Blank blanks)
      (tag : ReadsTag processEntities p name attributes .closed p')
      (others : Reads processEntities p' next rest) :
      Reads processEntities (blanks ++ byte '<' :: p) (.element name attributes .nil next) rest
  | element {blanks p children end' p' rest : Text} {name endName : StrPair}
      {attributes : List (Attribute StrPair)} {firstChild next : Nodes StrPair}
      (blank : Blank blanks) (tag : ReadsTag processEntities p name attributes .open children)
      (inner : Reads processEntities children firstChild end')
      (endTag : ReadsEndTag processEntities end' endName p')
      (same : sameString endName.text name.text = true)
      (others : Reads processEntities p' next rest) :
      Reads processEntities (blanks ++ byte '<' :: p)
        (.element name attributes firstChild next) rest

/-! ## The attributes are read -/

section Attributes

variable {processEntities : Bool} {p rest : Text}

theorem isWhite_of_isAlpha {c : Byte} (letter : isAlpha c = true) : isWhite c = false := by
  revert c
  decide

theorem isNameChar_of_isWhite {c : Byte} (white : isWhite c = true) :
    isNameChar c = false := by
  revert c
  decide

theorem isWhite_bracket : isWhite (byte '<') = false := by
  decide

theorem isNameChar_equals : isNameChar (byte '=') = false := by
  decide

theorem endsRun_of_isName {name : Text} (isName : IsName name) (rest : Text) :
    EndsRun isWhite (name ++ rest) := by
  rcases isName.begins with ⟨first, others, rfl, letter⟩
  exact endsRun_cons (isWhite_of_isAlpha letter)

theorem isWhite_of_isQuote {quote : Byte}
    (isQuote : quote = doubleQuote ∨ quote = singleQuote) : isWhite quote = false := by
  rcases isQuote with rfl | rfl
  · decide
  · decide

/-- A name ends in front of blanks and an equals sign. -/
theorem endsRun_blanks {blanks : Text} (blank : Blank blanks) {first : Byte}
    (other : isNameChar first = false) (rest : Text) :
    EndsRun isNameChar (blanks ++ first :: rest) := by
  cases blanks with
  | nil => exact endsRun_cons other
  | cons white blanks =>
      exact endsRun_cons (isNameChar_of_isWhite (blank white List.mem_cons_self))

theorem attributeParseDeep_sound {attrib : Attribute StrPair}
    (parsed : attributeParseDeep processEntities p = some (attrib, rest)) :
    ReadsAttribute processEntities p attrib rest := by
  unfold attributeParseDeep at parsed
  cases named : parseName p with
  | none => simp [named] at parsed
  | some part =>
      rcases part with ⟨name, p'⟩
      rcases parseName_eq_some_iff.mp named with ⟨rfl, isName, _, same⟩
      rcases exists_blank_append p' with ⟨blanks, blank, split, _⟩
      simp only [named] at parsed
      cases sees : skipWhiteSpace p' with
      | nil => simp [sees] at parsed
      | cons equals p'' =>
          rcases exists_blank_append p'' with ⟨blanks', blank', split', _⟩
          simp only [sees] at parsed
          split_ifs at parsed with notEquals
          rw [not_ne_iff] at notEquals
          cases sees' : skipWhiteSpace p'' with
          | nil => simp [sees'] at parsed
          | cons quote value =>
              simp only [sees'] at parsed
              split_ifs at parsed with notQuote
              rcases Option.map_eq_some_iff.mp parsed with ⟨⟨text, after⟩, found, made⟩
              cases made
              rcases (parseText_eq_some_iff (endsFresh_singleton quote)).mp found with
                ⟨rfl, clean, same'⟩
              have isQuote : quote = doubleQuote ∨ quote = singleQuote := by
                by_contra neither
                exact notQuote (not_or.mp neither)
              rw [List.singleton_infix_iff] at clean
              rw [sees'] at split'
              rw [sees, split', notEquals] at split
              rw [same, same', split]
              simpa using ReadsAttribute.mk isName blank blank' isQuote clean

theorem attributeParseDeep_complete {attrib : Attribute StrPair}
    (reads : ReadsAttribute processEntities p attrib rest) :
    attributeParseDeep processEntities p = some (attrib, rest) := by
  cases reads with
  | @mk name blanks blanks' value rest quote isName blank blank' isQuote clean =>
      have named := parseName_append isName (endsRun_blanks blank isNameChar_equals
        (blanks' ++ quote :: (value ++ quote :: rest)))
      have equals := skipWhiteSpace_cons blank (show isWhite (byte '=') = false by decide)
        (blanks' ++ quote :: (value ++ quote :: rest))
      have quoted := skipWhiteSpace_cons blank' (isWhite_of_isQuote isQuote)
        (value ++ quote :: rest)
      have found := parseText_append (endsFresh_singleton quote)
        (by rwa [List.singleton_infix_iff]) (attributeFlags processEntities) rest
      have noOther : ¬ (quote ≠ doubleQuote ∧ quote ≠ singleQuote) := by
        rintro ⟨notDouble, notSingle⟩
        exact isQuote.elim notDouble notSingle
      simp only [attributeParseDeep, named, equals, quoted, if_neg noOther]
      simpa using found

theorem attributeParseDeep_eq_some_iff {attrib : Attribute StrPair} :
    attributeParseDeep processEntities p = some (attrib, rest) ↔
      ReadsAttribute processEntities p attrib rest :=
  ⟨attributeParseDeep_sound, attributeParseDeep_complete⟩

theorem ReadsAttribute.length_lt {attrib : Attribute StrPair}
    (reads : ReadsAttribute processEntities p attrib rest) : rest.length < p.length := by
  cases reads
  simp only [List.length_append, List.length_cons]
  omega

theorem ReadsAttribute.begins {attrib : Attribute StrPair}
    (reads : ReadsAttribute processEntities p attrib rest) :
    ∃ first others, p = first :: others ∧ isAlpha first = true := by
  cases reads with
  | mk isName _ _ _ _ =>
      rcases isName.begins with ⟨first, others, rfl, letter⟩
      exact ⟨first, _, rfl, letter⟩

theorem findAttribute_eq_none_iff {attributes : List (Attribute StrPair)} {name : Text} :
    findAttribute attributes name = none ↔
      ∀ a ∈ attributes, sameString a.name.text name = false := by
  simp [findAttribute]

theorem parseAttributes_sound {start name : Text} {count : Nat} {closed : Bool}
    {list attributes : List (Attribute StrPair)} (distinct : Distinct list)
    (parsed : parseAttributes processEntities start name count list p =
      .attributes attributes closed rest) :
    ∃ more mid, attributes = list ++ more ∧ ReadsAttributes processEntities p more mid ∧
      ReadsEnd mid closed rest ∧ Distinct attributes := by
  induction count generalizing list p with
  | zero => simp [parseAttributes] at parsed
  | succ count ih =>
      rcases exists_blank_append p with ⟨blanks, blank, split, _⟩
      rw [parseAttributes] at parsed
      cases sees : skipWhiteSpace p with
      | nil => simp [sees] at parsed
      | cons first others =>
          rw [sees] at split
          simp only [sees] at parsed
          split_ifs at parsed with letter isClosed isEnd
          · cases first' : attributeParseDeep processEntities (first :: others) with
            | none => simp [first'] at parsed
            | some part =>
                rcases part with ⟨attrib, p'⟩
                simp only [first'] at parsed
                cases found : findAttribute list attrib.name.text with
                | some earlier =>
                    simp only [found] at parsed
                    split_ifs at parsed
                | none =>
                    simp only [found] at parsed
                    have distinct' : Distinct (list ++ [attrib]) := by
                      refine List.pairwise_append.mpr
                        ⟨distinct, List.pairwise_singleton _ _, fun a member b isLast => ?_⟩
                      rw [List.mem_singleton.mp isLast]
                      exact findAttribute_eq_none_iff.mp found a member
                    rcases ih distinct' parsed with ⟨more, mid, rfl, reads, ends, whole⟩
                    refine ⟨attrib :: more, mid, by simp, ?_, ends, whole⟩
                    rw [split]
                    exact .cons blank (attributeParseDeep_eq_some_iff.mp first') reads
          · cases parsed
            rcases isClosed with ⟨rfl, bracket⟩
            refine ⟨[], p, by simp, .nil p, ?_, distinct⟩
            cases others with
            | nil => cases bracket
            | cons second others =>
                cases bracket
                rw [split]
                exact .closed _ blank
          · cases parsed
            refine ⟨[], p, by simp, .nil p, ?_, distinct⟩
            rw [split, isEnd]
            exact .plain _ blank

theorem parseAttributes_complete (start name : Text) {count : Nat} {closed : Bool}
    {list more : List (Attribute StrPair)} {mid : Text}
    (reads : ReadsAttributes processEntities p more mid) (ends : ReadsEnd mid closed rest)
    (distinct : Distinct (list ++ more)) (enough : p.length ≤ count) :
    parseAttributes processEntities start name count list p =
      .attributes (list ++ more) closed rest := by
  induction reads generalizing list count with
  | nil p =>
      cases ends with
      | @closed blanks _ blank =>
          cases count with
          | zero => simp at enough
          | succ count =>
              rw [parseAttributes, skipWhiteSpace_cons blank (by decide)]
              simp only
              rw [if_neg (by decide), if_pos (by simp)]
              simp
      | @plain blanks _ blank =>
          cases count with
          | zero => simp at enough
          | succ count =>
              have noSlash : ¬ (byte '>' = byte '/' ∧ rest[0]? = some (byte '>')) := by
                rintro ⟨same, _⟩
                exact absurd same (by decide)
              rw [parseAttributes, skipWhiteSpace_cons blank (by decide)]
              simp only
              rw [if_neg (by decide), if_neg noSlash, if_pos trivial]
              simp
  | @cons blanks p p' rest' attrib attributes blank first others ih =>
      rcases first.begins with ⟨letter, behind, rfl, isLetter⟩
      have shorter := first.length_lt
      rw [List.length_append] at enough
      cases count with
      | zero => simp at enough
      | succ count =>
          have fresh : findAttribute list attrib.name.text = none := by
            rw [findAttribute_eq_none_iff]
            exact fun a member =>
              (List.pairwise_append.mp distinct).2.2 a member attrib List.mem_cons_self
          have distinct' : Distinct (list ++ [attrib] ++ attributes) := by
            rwa [List.append_assoc, List.singleton_append]
          rw [parseAttributes, skipWhiteSpace_cons blank (isWhite_of_isAlpha isLetter)]
          simp only
          rw [if_pos isLetter, attributeParseDeep_eq_some_iff.mpr first]
          simp only
          rw [fresh]
          simp only
          rw [ih ends distinct' (by omega), List.append_assoc, List.singleton_append]

end Attributes

/-! ## The tags are read -/

section Tags

variable {processEntities : Bool} {p rest : Text} {name : StrPair}
  {attributes : List (Attribute StrPair)} {closingType : ClosingType}

theorem ReadsAttributes.length_le (reads : ReadsAttributes processEntities p attributes rest) :
    rest.length ≤ p.length := by
  induction reads with
  | nil p => exact Nat.le_refl _
  | cons blank first others ih =>
      have shorter := first.length_lt
      rw [List.length_append]
      omega

theorem ReadsEnd.length_lt {closed : Bool} (reads : ReadsEnd p closed rest) :
    rest.length < p.length := by
  cases reads <;> simp only [List.length_append, List.length_cons] <;> omega

theorem ReadsTag.length_lt
    (reads : ReadsTag processEntities p name attributes closingType rest) :
    rest.length < p.length := by
  cases reads with
  | mk blank isName ends reads distinct readsEnd =>
      have first := reads.length_le
      have second := readsEnd.length_lt
      simp only [List.length_append]
      omega

/-- A tag begins with blanks, a slash or a name. -/
theorem ReadsTag.begins
    (reads : ReadsTag processEntities p name attributes closingType rest) :
    ∃ first others, p = first :: others ∧
      (isWhite first = true ∨ first = byte '/' ∨ isAlpha first = true) := by
  cases reads with
  | @mk blanks name p p' rest attributes closing closed blank isName ends reads _ readsEnd =>
      cases blanks with
      | cons first blanks =>
          exact ⟨first, _, rfl, .inl (blank first List.mem_cons_self)⟩
      | nil =>
          cases closing with
          | true => exact ⟨byte '/', _, rfl, .inr (.inl rfl)⟩
          | false =>
              rcases isName.begins with ⟨first, others, rfl, letter⟩
              exact ⟨first, _, rfl, .inr (.inr letter)⟩

theorem parseTag_sound
    (parsed : parseTag processEntities p = .tag name attributes closingType rest) :
    ReadsTag processEntities p name attributes closingType rest := by
  rcases exists_blank_append p with ⟨blanks, blank, split, _⟩
  unfold parseTag at parsed
  simp only at parsed
  generalize skipWhiteSpace p = q at split parsed
  subst split
  cases named : parseName (if q[0]? = some (byte '/') then q.drop 1 else q) with
  | none =>
      simp only [named] at parsed
      cases parsed
  | some part =>
      rcases part with ⟨name', p'⟩
      rcases parseName_eq_some_iff.mp named with ⟨whole, isName, ends, same⟩
      simp only [named] at parsed
      cases ended : parseAttributes processEntities p' name'.start p'.length [] p' with
      | null error => simp [ended] at parsed
      | nullRead => simp [ended] at parsed
      | «attributes» list closed p'' =>
          rcases parseAttributes_sound List.Pairwise.nil ended with
            ⟨more, mid, rfl, reads, readsEnd, distinct⟩
          rw [ended] at parsed
          simp only [TagResult.tag.injEq] at parsed
          obtain ⟨rfl, rfl, rfl, rfl⟩ := parsed
          by_cases closing : q[0]? = some (byte '/')
          · rw [if_pos closing] at whole
            have slashed : q = slash true ++ (name'.text ++ p') := by
              rw [← whole]
              cases q with
              | nil => cases closing
              | cons first q =>
                  cases closing
                  rfl
            rw [if_pos closing, slashed, same]
            exact .mk blank isName ends reads distinct readsEnd
          · rw [if_neg closing] at whole
            have unslashed : q = slash false ++ (name'.text ++ p') := whole
            rw [if_neg closing, unslashed, same]
            exact .mk blank isName ends reads distinct readsEnd

theorem parseTag_complete
    (reads : ReadsTag processEntities p name attributes closingType rest) :
    parseTag processEntities p = .tag name attributes closingType rest := by
  cases reads with
  | @mk blanks name p p' rest attributes closing closed blank isName ends reads distinct
      readsEnd =>
      have named := parseName_append isName ends
      have ended := parseAttributes_complete p (name ++ p) reads readsEnd
        (show Distinct ([] ++ attributes) from distinct) (Nat.le_refl _)
      cases closing with
      | true =>
          have sees := skipWhiteSpace_cons blank
            (show isWhite (byte '/') = false by decide) (name ++ p)
          change parseTag processEntities (blanks ++ byte '/' :: (name ++ p)) = _
          simp only [parseTag, sees]
          simp only [List.getElem?_cons_zero, if_true, List.drop_succ_cons, List.drop_zero,
            named, StrPair.start, ended, List.nil_append]
          rfl
      | false =>
          have sees := skipWhiteSpace_append blank (endsRun_of_isName isName p)
          have noSlash : (name ++ p)[0]? ≠ some (byte '/') := by
            rcases isName.begins with ⟨first, others, rfl, letter⟩
            intro same
            cases same
            exact absurd letter (by decide)
          change parseTag processEntities (blanks ++ (name ++ p)) = _
          simp only [parseTag, sees]
          simp only [if_neg noSlash, named, StrPair.start, ended, List.nil_append]
          rfl

theorem parseTag_eq_tag_iff :
    parseTag processEntities p = .tag name attributes closingType rest ↔
      ReadsTag processEntities p name attributes closingType rest :=
  ⟨parseTag_sound, parseTag_complete⟩

end Tags

/-! ## The nodes are identified -/

section Leaves

variable {processEntities : Bool} {p rest : Text}

theorem endsFresh_ender (kind : LeafKind) : EndsFresh kind.ender := by
  cases kind with
  | text => exact endsFresh_singleton _
  | unknown => exact endsFresh_singleton _
  | cdata => exact ⟨bytes [']', ']'], byte '>', rfl, by decide⟩
  | comment => exact ⟨bytes ['-', '-'], byte '>', rfl, by decide⟩
  | declaration => exact ⟨bytes ['?'], byte '>', rfl, by decide⟩

/-- A leaf that is no text is parsed up to its end. -/
theorem leafKindParseDeep_eq (processEntities : Bool) {kind : LeafKind} (isMarkup : kind ≠ .text) :
    ∃ id, leafKindParseDeep processEntities kind =
      leafParseDeep kind.ender (kind.flags processEntities) id := by
  cases kind with
  | text => exact absurd rfl isMarkup
  | cdata => exact ⟨_, rfl⟩
  | comment => exact ⟨_, rfl⟩
  | declaration => exact ⟨_, rfl⟩
  | unknown => exact ⟨_, rfl⟩

/-- What is behind the header of a node. -/
inductive Identifies : Text → Identified → Text → Prop
  | text {start : Text} {first : Byte} {others : Text}
      (sees : skipWhiteSpace start = first :: others) (noBracket : first ≠ byte '<') :
      Identifies start (.leaf .text) start
  | markup (kind : LeafKind) {blanks : Text} (p : Text) (blank : Blank blanks)
      (isMarkup : kind ≠ .text) (other : kind = .unknown → Unknowable p) :
      Identifies (blanks ++ (kind.header ++ p)) (.leaf kind) p
  | element {blanks : Text} (p : Text) (blank : Blank blanks)
      (noMark : p[0]? ≠ some (byte '?') ∧ p[0]? ≠ some (byte '!')) :
      Identifies (blanks ++ byte '<' :: p) .element p

/-- What `Identify` finds behind the blanks. -/
theorem identify_eq {start q : Text} (sees : skipWhiteSpace start = q) (more : q ≠ []) :
    identify start =
      if xmlHeader <+: q then some (.leaf .declaration, q.drop 2)
      else if commentHeader <+: q then some (.leaf .comment, q.drop 4)
      else if cdataHeader <+: q then some (.leaf .cdata, q.drop 9)
      else if dtdHeader <+: q then some (.leaf .unknown, q.drop 2)
      else if elementHeader <+: q then some (.element, q.drop 1)
      else some (.leaf .text, start) := by
  have compare (header : Text) :
      (stringEqual q header header.length = true) = (header <+: q) := by
    rw [stringEqual_header, List.isPrefixOf_iff_prefix]
  simp only [identify, sees]
  rw [if_neg more]
  simp only [← compare]
  rfl

theorem skipWhiteSpace_header {kind : LeafKind} {blanks : Text} (blank : Blank blanks)
    (isMarkup : kind ≠ .text) (p : Text) :
    skipWhiteSpace (blanks ++ (kind.header ++ p)) = kind.header ++ p := by
  cases kind with
  | text => exact absurd rfl isMarkup
  | _ => exact skipWhiteSpace_cons blank isWhite_bracket _

theorem identify_eq_none_iff : identify p = none ↔ Blank p := by
  rw [← skipWhiteSpace_eq_nil_iff]
  cases sees : skipWhiteSpace p with
  | nil => simp [identify, sees]
  | cons first others =>
      rw [identify_eq sees (by simp)]
      split_ifs <;> simp

theorem mark_of_prefix {mark : Byte} {behind : Text}
    (header : byte '<' :: mark :: behind <+: byte '<' :: p) : p[0]? = some mark := by
  rcases header with ⟨after, whole⟩
  rw [← (List.cons.inj whole).2]
  rfl

theorem prefix_of_mark {mark : Byte} (isMark : p[0]? = some mark) :
    [byte '<', mark] <+: byte '<' :: p := by
  cases p with
  | nil => cases isMark
  | cons first others =>
      cases isMark
      exact ⟨others, rfl⟩

theorem identify_sound {identified : Identified} (found : identify p = some (identified, rest)) :
    Identifies p identified rest := by
  rcases exists_blank_append p with ⟨blanks, blank, split, _⟩
  cases sees : skipWhiteSpace p with
  | nil => simp [identify, sees] at found
  | cons first others =>
      rw [sees] at split
      rw [identify_eq sees (by simp)] at found
      split_ifs at found with isDeclaration isComment isCData isUnknown isElement
      · cases found
        rcases isDeclaration with ⟨behind, whole⟩
        rw [split, ← whole]
        exact .markup .declaration behind blank (by decide) (by simp)
      · cases found
        rcases isComment with ⟨behind, whole⟩
        rw [split, ← whole]
        exact .markup .comment behind blank (by decide) (by simp)
      · cases found
        rcases isCData with ⟨behind, whole⟩
        rw [split, ← whole]
        exact .markup .cdata behind blank (by decide) (by simp)
      · cases found
        rcases isUnknown with ⟨behind, whole⟩
        rw [← whole] at isComment isCData
        rw [split, ← whole]
        refine .markup .unknown behind blank (by decide) fun _ => ⟨?_, ?_⟩
        · intro dashes
          exact isComment ((List.prefix_append_right_inj dtdHeader).mpr dashes)
        · intro bracket
          exact isCData ((List.prefix_append_right_inj dtdHeader).mpr bracket)
      · cases found
        rcases isElement with ⟨behind, whole⟩
        cases whole
        rw [split]
        refine .element _ blank ⟨?_, ?_⟩
        · exact fun mark => isDeclaration (prefix_of_mark mark)
        · exact fun mark => isUnknown (prefix_of_mark mark)
      · cases found
        refine .text sees ?_
        rintro rfl
        exact isElement ⟨others, rfl⟩

theorem identify_text {start : Text} {first : Byte} {others : Text}
    (sees : skipWhiteSpace start = first :: others) (noBracket : first ≠ byte '<') :
    identify start = some (.leaf .text, start) := by
  have noHeader (behind : Text) : ¬ byte '<' :: behind <+: first :: others := by
    rintro ⟨_, whole⟩
    exact noBracket (List.cons.inj whole).1.symm
  refine (identify_eq sees (by simp)).trans ?_
  exact (if_neg (noHeader _)).trans <| (if_neg (noHeader _)).trans <|
    (if_neg (noHeader _)).trans <| (if_neg (noHeader _)).trans (if_neg (noHeader _))

theorem identify_markup {kind : LeafKind} {blanks : Text} (blank : Blank blanks)
    (isMarkup : kind ≠ .text) (other : kind = .unknown → Unknowable p) :
    identify (blanks ++ (kind.header ++ p)) = some (.leaf kind, p) := by
  have sees := skipWhiteSpace_header blank isMarkup p
  have more : kind.header ++ p ≠ [] := by
    cases kind with
    | text => exact absurd rfl isMarkup
    | _ => simp [LeafKind.header, xmlHeader, commentHeader, cdataHeader, dtdHeader, bytes]
  rw [identify_eq sees more]
  cases kind with
  | text => exact absurd rfl isMarkup
  | declaration => exact if_pos (List.prefix_append xmlHeader p)
  | comment =>
      have notXml : ¬ xmlHeader <+: commentHeader ++ p := by
        simp [xmlHeader, commentHeader, bytes, byte]
      exact (if_neg notXml).trans (if_pos (List.prefix_append commentHeader p))
  | cdata =>
      have notXml : ¬ xmlHeader <+: cdataHeader ++ p := by
        simp [xmlHeader, cdataHeader, bytes, byte]
      have notComment : ¬ commentHeader <+: cdataHeader ++ p := by
        simp [commentHeader, cdataHeader, bytes, byte]
      exact (if_neg notXml).trans <| (if_neg notComment).trans
        (if_pos (List.prefix_append cdataHeader p))
  | unknown =>
      have notXml : ¬ xmlHeader <+: dtdHeader ++ p := by
        simp [xmlHeader, dtdHeader, bytes, byte]
      have notComment : ¬ commentHeader <+: dtdHeader ++ p := fun dashes =>
        (other rfl).1 ((List.prefix_append_right_inj dtdHeader).mp dashes)
      have notCData : ¬ cdataHeader <+: dtdHeader ++ p := fun bracket =>
        (other rfl).2 ((List.prefix_append_right_inj dtdHeader).mp bracket)
      exact (if_neg notXml).trans <| (if_neg notComment).trans <|
        (if_neg notCData).trans (if_pos (List.prefix_append dtdHeader p))

theorem identify_element {blanks : Text} (blank : Blank blanks)
    (noMark : p[0]? ≠ some (byte '?') ∧ p[0]? ≠ some (byte '!')) :
    identify (blanks ++ byte '<' :: p) = some (.element, p) := by
  have sees := skipWhiteSpace_cons blank isWhite_bracket p
  refine (identify_eq sees (by simp)).trans ?_
  exact (if_neg (mt mark_of_prefix noMark.1)).trans <|
    (if_neg (mt mark_of_prefix noMark.2)).trans <|
      (if_neg (mt mark_of_prefix noMark.2)).trans <|
        (if_neg (mt mark_of_prefix noMark.2)).trans (if_pos (List.prefix_append elementHeader p))

theorem identify_eq_some_iff {identified : Identified} :
    identify p = some (identified, rest) ↔ Identifies p identified rest := by
  constructor
  · exact identify_sound
  · intro identifies
    cases identifies with
    | text sees noBracket => exact identify_text sees noBracket
    | markup kind p blank isMarkup other => exact identify_markup blank isMarkup other
    | element p blank noMark => exact identify_element blank noMark

/-! ## The leaves are read -/

theorem unknowable_append {value : Text} (unknowable : Unknowable value) (rest : Text) :
    Unknowable (value ++ byte '>' :: rest) :=
  ⟨fun dashes => unknowable.1 (prefix_of_prefix_append (by decide) dashes),
    fun bracket => unknowable.2 (prefix_of_prefix_append (by decide) bracket)⟩

theorem ReadsLeaf.length_lt {node : Leaf StrPair} (reads : ReadsLeaf processEntities p node rest) :
    rest.length < p.length := by
  cases reads with
  | @text value rest shown clean more =>
      have : value ≠ [] := by
        rintro rfl
        exact shown blank_nil
      have := List.length_pos_iff.mpr this
      rw [List.length_append]
      omega
  | @markup kind blanks value rest blank isMarkup clean other =>
      have : 0 < kind.ender.length := List.length_pos_iff.mpr (endsFresh_ender kind).ne_nil
      simp only [List.length_append]
      omega

theorem readsText_sound {value : StrPair} {first : Byte} {others : Text}
    (sees : skipWhiteSpace p = first :: others) (noBracket : first ≠ byte '<')
    (parsed : leafKindParseDeep processEntities .text p = .ok (value, rest)) :
    ReadsLeaf processEntities p ⟨.text, value⟩ rest := by
  cases text : parseText p elementHeader (textFlags processEntities) with
  | none => simp [leafKindParseDeep, textParseDeep, text] at parsed
  | some part =>
      rcases part with ⟨value', behind⟩
      simp only [leafKindParseDeep, textParseDeep, text] at parsed
      split_ifs at parsed with more
      cases parsed
      rcases (parseText_eq_some_iff (endsFresh_singleton _)).mp text with ⟨rfl, clean, same⟩
      have noBracket' : byte '<' ∉ value.text := by
        rw [← List.singleton_infix_iff]
        exact clean
      rw [same]
      rw [List.append_assoc] at sees ⊢
      refine .text ?_ noBracket' more
      intro blank
      have bracket := skipWhiteSpace_cons blank isWhite_bracket behind
      exact noBracket (List.cons.inj (sees.symm.trans bracket)).1

theorem readsMarkup_sound {kind : LeafKind} {value : StrPair} {blanks : Text}
    (blank : Blank blanks) (isMarkup : kind ≠ .text) (other : kind = .unknown → Unknowable p)
    (parsed : leafKindParseDeep processEntities kind p = .ok (value, rest)) :
    ReadsLeaf processEntities (blanks ++ (kind.header ++ p)) ⟨kind, value⟩ rest := by
  rcases leafKindParseDeep_eq processEntities isMarkup with ⟨id, same⟩
  rw [same, leafParseDeep] at parsed
  cases text : parseText p kind.ender (kind.flags processEntities) with
  | none => simp [text] at parsed
  | some part =>
      simp only [text] at parsed
      cases parsed
      rcases (parseText_eq_some_iff (endsFresh_ender kind)).mp text with ⟨rfl, clean, same⟩
      rw [same, List.append_assoc]
      refine .markup rest blank isMarkup clean fun isUnknown => ?_
      rcases other isUnknown with ⟨noDashes, noBracket⟩
      rw [List.append_assoc] at noDashes noBracket
      exact ⟨fun dashes => noDashes (dashes.trans (List.prefix_append _ _)),
        fun bracket => noBracket (bracket.trans (List.prefix_append _ _))⟩

/-- A text is identified by its first byte that is not blank. -/
theorem identifies_text {value : Text} (shown : ¬ Blank value) (clean : byte '<' ∉ value)
    (rest : Text) :
    Identifies (value ++ byte '<' :: rest) (.leaf .text) (value ++ byte '<' :: rest) := by
  rcases exists_blank_append value with ⟨blanks, blank, split, _⟩
  cases sees : skipWhiteSpace value with
  | nil => exact absurd (skipWhiteSpace_eq_nil_iff.mp sees) shown
  | cons first others =>
      have noBracket : first ≠ byte '<' := by
        rintro rfl
        refine clean ?_
        rw [split, sees]
        simp
      have notWhite := endsRun_dropWhile isWhite value
      rw [← skipWhiteSpace, sees] at notWhite
      have sees' := skipWhiteSpace_cons blank (notWhite first rfl) (others ++ byte '<' :: rest)
      rw [← List.cons_append, ← List.append_assoc, ← sees, ← split, sees] at sees'
      exact .text sees' noBracket

/-- A leaf is identified and parsed exactly where the text begins with it. -/
theorem readsLeaf_iff {kind : LeafKind} {value : StrPair} :
    (∃ q, identify p = some (.leaf kind, q) ∧
      leafKindParseDeep processEntities kind q = .ok (value, rest)) ↔
      ReadsLeaf processEntities p ⟨kind, value⟩ rest := by
  constructor
  · rintro ⟨q, found, parsed⟩
    rcases identify_eq_some_iff.mp found with
      ⟨sees, noBracket⟩ | ⟨_, _, blank, isMarkup, other⟩ | _
    · exact readsText_sound sees noBracket parsed
    · exact readsMarkup_sound blank isMarkup other parsed
  · intro reads
    cases reads with
    | @text value rest shown clean more =>
        refine ⟨_, identify_eq_some_iff.mpr (identifies_text shown clean rest), ?_⟩
        have parsed := parseText_append (endsFresh_singleton (byte '<'))
          (by rwa [List.singleton_infix_iff]) (textFlags processEntities) rest
        simp only [List.singleton_append] at parsed
        simp only [leafKindParseDeep, textParseDeep]
        rw [elementHeader, bytes, List.map_singleton, parsed]
        simp [more]
    | @markup kind blanks value rest blank isMarkup clean other =>
        refine ⟨_, identify_eq_some_iff.mpr (.markup kind _ blank isMarkup ?_), ?_⟩
        · intro isUnknown
          subst isUnknown
          exact unknowable_append (other rfl) rest
        · rcases leafKindParseDeep_eq processEntities isMarkup with ⟨id, same⟩
          rw [same, leafParseDeep, parseText_append (endsFresh_ender kind) clean]

end Leaves

end SandPlatform.Xml
