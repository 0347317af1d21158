import SandPlatform.Xml.Grammar

/-!
# The parser accepts its language

The loop of `ParseDeep` reads the longest sequence of nodes of a text and stops at an
end tag, at the end of the text or at an error.  A document is accepted exactly if its
text is one of nodes, and then these are its children; an end tag without an element
ends the document, and nothing is said of it.
-/

namespace SandPlatform.Xml

open SandPlatform.Foundation

variable {processEntities : Bool} {p rest : Text}

/-! ## A round -/

/-- The outcomes of a round. -/
inductive Round (processEntities : Bool) (loop : Text → Level) : Text → Level → Prop
  | atEnd {p : Text} (blank : Blank p) : Round processEntities loop p ⟨.nil, .null none⟩
  | failed (p : Text) (error : Error) :
      Round processEntities loop p ⟨.nil, .null (some error)⟩
  | nullRead (p : Text) : Round processEntities loop p ⟨.nil, .nullRead⟩
  | leaf {p p' : Text} {node : Leaf StrPair} (first : ReadsLeaf processEntities p node p') :
      Round processEntities loop p ((loop p').insertFirst (.leaf node))
  | endTag {p p' : Text} {name : StrPair} (first : ReadsEndTag processEntities p name p') :
      Round processEntities loop p ⟨.nil, .pointer (some name) p'⟩
  | closed {blanks p p' : Text} {name : StrPair} {attributes : List (Attribute StrPair)}
      (blank : Blank blanks) (tag : ReadsTag processEntities p name attributes .closed p') :
      Round processEntities loop (blanks ++ byte '<' :: p)
        ((loop p').insertFirst (.element name attributes .nil))
  | element {blanks p children p' : Text} {name endName : StrPair}
      {attributes : List (Attribute StrPair)} (blank : Blank blanks)
      (tag : ReadsTag processEntities p name attributes .open children)
      (inner : (loop children).ending = .pointer (some endName) p')
      (same : sameString endName.text name.text = true) :
      Round processEntities loop (blanks ++ byte '<' :: p)
        ((loop p').insertFirst (.element name attributes (loop children).children))

/-- No tag begins with the mark of a declaration or of a comment. -/
theorem ReadsTag.noMark {name : StrPair} {attributes : List (Attribute StrPair)}
    {closingType : ClosingType}
    (tag : ReadsTag processEntities p name attributes closingType rest) :
    p[0]? ≠ some (byte '?') ∧ p[0]? ≠ some (byte '!') := by
  rcases tag.begins with ⟨first, others, rfl, begins⟩
  have other : ∀ c : Byte, isWhite c = true ∨ c = byte '/' ∨ isAlpha c = true →
      c ≠ byte '?' ∧ c ≠ byte '!' := by decide
  simpa using other first begins

theorem identify_tag {blanks : Text} {name : StrPair} {attributes : List (Attribute StrPair)}
    {closingType : ClosingType} (blank : Blank blanks)
    (tag : ReadsTag processEntities p name attributes closingType rest) :
    identify (blanks ++ byte '<' :: p) = some (.element, p) :=
  identify_eq_some_iff.mpr (.element p blank tag.noMark)

theorem parseRound_cases (processEntities : Bool) (loop : Text → Level) (p : Text) :
    Round processEntities loop p (parseRound processEntities loop p) := by
  unfold parseRound
  cases found : identify p with
  | none => exact .atEnd (identify_eq_none_iff.mp found)
  | some part =>
      rcases part with ⟨kind | _, q⟩
      · cases parsed : leafKindParseDeep processEntities kind q with
        | error error =>
            simp only [parsed]
            exact .failed p _
        | ok part =>
            rcases part with ⟨value, p'⟩
            simp only [parsed]
            exact .leaf (readsLeaf_iff.mp ⟨q, found, parsed⟩)
      · rcases identify_eq_some_iff.mp found with _ | _ | ⟨_, blank, _⟩
        cases parsed : parseTag processEntities q with
        | null error =>
            simp only [parsed]
            exact .failed _ _
        | nullRead =>
            simp only [parsed]
            exact .nullRead _
        | tag name attributes closingType p' =>
            have tag := parseTag_eq_tag_iff.mp parsed
            simp only [parsed]
            cases closingType with
            | closing =>
                simp only [ne_eq, reduceCtorEq, not_false_eq_true, or_true, if_true]
                exact .endTag (.mk blank tag)
            | closed =>
                simp only [ne_eq, reduceCtorEq, not_false_eq_true, or_true, if_true, if_false,
                  mismatched, beq_iff_eq]
                exact .closed blank tag
            | «open» =>
                simp only [ne_eq, not_true_eq_false, or_false, reduceCtorEq, if_false]
                split_ifs with atEnd
                · simp only [mismatched, beq_self_eq_true, if_true]
                  exact .failed _ _
                · cases inner : (loop p').ending with
                  | null error => exact .failed _ _
                  | nullRead => exact .nullRead _
                  | pointer endTag p'' =>
                      cases endTag with
                      | none =>
                          simp only [mismatched, beq_self_eq_true, if_true]
                          exact .failed _ _
                      | some endName =>
                          by_cases same : sameString endName.text name.text = true
                          · simp only [mismatched, same, bne_self_eq_false, Bool.not_true,
                              Bool.or_false, Bool.false_eq_true, if_false]
                            exact .element blank tag inner same
                          · simp only [mismatched, same, bne_self_eq_false, Bool.not_false,
                              Bool.or_true, if_true]
                            exact .failed _ _

/-! ## What a round is for each beginning -/

section Rounds

variable (loop : Text → Level)

theorem parseRound_blank (blank : Blank p) :
    parseRound processEntities loop p = ⟨.nil, .null none⟩ := by
  rw [parseRound, identify_eq_none_iff.mpr blank]

theorem parseRound_leaf {node : Leaf StrPair} (first : ReadsLeaf processEntities p node rest) :
    parseRound processEntities loop p = (loop rest).insertFirst (.leaf node) := by
  rcases readsLeaf_iff.mpr first with ⟨q, found, parsed⟩
  simp only [parseRound, found, parsed]

theorem parseRound_endTag {name : StrPair} (first : ReadsEndTag processEntities p name rest) :
    parseRound processEntities loop p = ⟨.nil, .pointer (some name) rest⟩ := by
  cases first with
  | mk blank tag =>
      simp [parseRound, identify_tag blank tag, parseTag_eq_tag_iff.mpr tag]

theorem parseRound_closed {blanks : Text} {name : StrPair}
    {attributes : List (Attribute StrPair)} (blank : Blank blanks)
    (tag : ReadsTag processEntities p name attributes .closed rest) :
    parseRound processEntities loop (blanks ++ byte '<' :: p) =
      (loop rest).insertFirst (.element name attributes .nil) := by
  simp [parseRound, identify_tag blank tag, parseTag_eq_tag_iff.mpr tag, mismatched]

theorem parseRound_element {blanks children : Text} {name endName : StrPair}
    {attributes : List (Attribute StrPair)} (blank : Blank blanks)
    (tag : ReadsTag processEntities p name attributes .open children) (more : children ≠ [])
    (inner : (loop children).ending = .pointer (some endName) rest)
    (same : sameString endName.text name.text = true) :
    parseRound processEntities loop (blanks ++ byte '<' :: p) =
      (loop rest).insertFirst (.element name attributes (loop children).children) := by
  simp [parseRound, identify_tag blank tag, parseTag_eq_tag_iff.mpr tag, more, inner,
    mismatched, same]

end Rounds

/-! ## The loop goes forward -/

theorem ReadsEndTag.length_lt {name : StrPair}
    (reads : ReadsEndTag processEntities p name rest) : rest.length < p.length := by
  cases reads with
  | mk blank tag =>
      have shorter := tag.length_lt
      simp only [List.length_append, List.length_cons]
      omega

/-- The pointer that is returned is behind the one that was given. -/
theorem parseDeep_pointer_lt {count : Nat} {endTag : Option StrPair}
    (ended : (parseDeep processEntities count p).ending = .pointer endTag rest) :
    rest.length < p.length := by
  induction count generalizing p endTag rest with
  | zero => cases ended
  | succ count ih =>
      rw [parseDeep] at ended
      have cases' := parseRound_cases processEntities (parseDeep processEntities count) p
      generalize parseRound processEntities (parseDeep processEntities count) p = level
        at cases' ended
      cases cases' with
      | atEnd blank => cases ended
      | failed error => cases ended
      | nullRead => cases ended
      | leaf first =>
          have shorter := first.length_lt
          have behind := ih ended
          omega
      | endTag first =>
          cases ended
          exact first.length_lt
      | closed blank tag =>
          have shorter := tag.length_lt
          have behind := ih ended
          simp only [List.length_append, List.length_cons]
          omega
      | element blank tag inner same =>
          have shorter := tag.length_lt
          have behind := ih inner
          have further := ih ended
          simp only [List.length_append, List.length_cons]
          omega

/-- A round looks only at what is behind it. -/
theorem parseRound_congr {loop loop' : Text → Level}
    (agree : ∀ q : Text, q.length < p.length → loop q = loop' q)
    (forward : ∀ (q : Text) (endTag : Option StrPair) (rest : Text),
      (loop q).ending = .pointer endTag rest → rest.length < q.length) :
    parseRound processEntities loop p = parseRound processEntities loop' p := by
  unfold parseRound
  cases found : identify p with
  | none => rfl
  | some part =>
      rcases part with ⟨kind | _, q⟩
      · cases parsed : leafKindParseDeep processEntities kind q with
        | error error => simp only [parsed]
        | ok part =>
            rcases part with ⟨value, p'⟩
            simp only [parsed]
            have shorter := (readsLeaf_iff.mp ⟨q, found, parsed⟩).length_lt
            rw [agree p' shorter]
      · rcases identify_eq_some_iff.mp found with _ | _ | ⟨_, blank, _⟩
        cases parsed : parseTag processEntities q with
        | null error => simp only [parsed]
        | nullRead => simp only [parsed]
        | tag name attributes closingType p' =>
            have shorter := (parseTag_eq_tag_iff.mp parsed).length_lt
            simp only [List.length_append, List.length_cons] at agree
            simp only [parsed]
            by_cases early : p' = [] ∨ closingType ≠ .open
            · simp only [if_pos early]
              rw [agree p' (by omega)]
            · simp only [if_neg early]
              rw [← agree p' (by omega)]
              cases inner : (loop p').ending with
              | null error => rfl
              | nullRead => rfl
              | pointer endTag p'' =>
                  have behind := forward p' endTag p'' inner
                  simp only
                  rw [agree p'' (by omega)]

/-- The loop, with a count that is large enough. -/
def parseAll (processEntities : Bool) (p : Text) : Level :=
  parseDeep processEntities p.length p

theorem parseDeep_of_le {count : Nat} (enough : p.length ≤ count) :
    parseDeep processEntities count p = parseAll processEntities p := by
  induction count using Nat.strong_induction_on generalizing p with
  | h count ih =>
      cases count with
      | zero =>
          rw [parseAll, Nat.eq_zero_of_le_zero enough]
      | succ count =>
          cases p with
          | nil => exact parseRound_blank _ blank_nil
          | cons first others =>
              rw [List.length_cons] at enough
              rw [parseAll, List.length_cons, parseDeep, parseDeep]
              refine parseRound_congr (fun q shorter => ?_) fun q endTag rest =>
                parseDeep_pointer_lt
              rw [List.length_cons] at shorter
              rw [ih count (by omega) (by omega)]
              by_cases same : others.length = count
              · rw [same, ih count (by omega) (by omega)]
              · rw [ih others.length (by omega) (by omega)]

theorem parseAll_eq (p : Text) :
    parseAll processEntities p = parseRound processEntities (parseAll processEntities) p := by
  rw [← parseDeep_of_le (Nat.le_succ p.length), parseDeep]
  refine parseRound_congr (fun q shorter => ?_) fun q endTag rest => parseDeep_pointer_lt
  exact parseDeep_of_le (Nat.le_of_lt shorter)

/-! ## The language -/

/-- What is behind the nodes that were read. -/
inductive EndsAt (processEntities : Bool) : Text → Ending → Prop
  | atEnd {p : Text} (blank : Blank p) : EndsAt processEntities p (.null none)
  | failed (p : Text) (error : Error) : EndsAt processEntities p (.null (some error))
  | nullRead (p : Text) : EndsAt processEntities p .nullRead
  | endTag {p rest : Text} {name : StrPair} (reads : ReadsEndTag processEntities p name rest) :
      EndsAt processEntities p (.pointer (some name) rest)

/-- The children that are inserted are read from the text, whatever comes behind them. -/
theorem parseAll_reads (processEntities : Bool) (p : Text) :
    ∃ mid, Reads processEntities p (parseAll processEntities p).children mid ∧
      EndsAt processEntities mid (parseAll processEntities p).ending := by
  induction size : p.length using Nat.strong_induction_on generalizing p with
  | h length ih =>
      subst size
      rw [parseAll_eq]
      have cases' := parseRound_cases processEntities (parseAll processEntities) p
      generalize parseRound processEntities (parseAll processEntities) p = level at cases' ⊢
      cases cases' with
      | atEnd blank => exact ⟨p, .nil p, .atEnd blank⟩
      | failed error => exact ⟨p, .nil p, .failed p _⟩
      | nullRead => exact ⟨p, .nil p, .nullRead p⟩
      | endTag first => exact ⟨p, .nil p, .endTag first⟩
      | @leaf _ p' node first =>
          rcases ih p'.length first.length_lt p' rfl with ⟨mid, reads, ends⟩
          exact ⟨mid, .leaf first reads, ends⟩
      | @closed blanks q p' name attributes blank tag =>
          have shorter := tag.length_lt
          have shorter' : p'.length < (blanks ++ byte '<' :: q).length := by
            simp only [List.length_append, List.length_cons]
            omega
          rcases ih p'.length shorter' p' rfl with ⟨mid, reads, ends⟩
          exact ⟨mid, .closed blank tag reads, ends⟩
      | @element blanks q children p' name endName attributes blank tag inner same =>
          have shorter := tag.length_lt
          have behind := parseDeep_pointer_lt inner
          have shorter' : children.length < (blanks ++ byte '<' :: q).length := by
            simp only [List.length_append, List.length_cons]
            omega
          rcases ih children.length shorter' children rfl with ⟨end', readsChildren, endsChildren⟩
          rcases ih p'.length (Nat.lt_trans behind shorter') p' rfl with ⟨mid, reads, ends⟩
          rw [inner] at endsChildren
          cases endsChildren with
          | endTag readsEnd =>
              exact ⟨mid, .element blank tag readsChildren readsEnd same reads, ends⟩

/-- Nodes that a text begins with are the first ones that are inserted. -/
theorem parseAll_of_reads {nodes : Nodes StrPair} (reads : Reads processEntities p nodes rest) :
    parseAll processEntities p =
      (parseAll processEntities rest).insertFirst nodes.append := by
  induction reads with
  | nil p => rfl
  | leaf first others ih =>
      rw [parseAll_eq, parseRound_leaf _ first, ih]
      rfl
  | closed blank tag others ih =>
      rw [parseAll_eq, parseRound_closed _ blank tag, ih]
      rfl
  | @element blanks p children end' p' rest name endName attributes firstChild next blank tag
      inner endTag same others ihInner ihOthers =>
      have atEnd : parseAll processEntities end' = ⟨.nil, .pointer (some endName) p'⟩ := by
        rw [parseAll_eq, parseRound_endTag _ endTag]
      rw [atEnd] at ihInner
      have more : children ≠ [] := by
        rintro rfl
        cases congrArg Level.ending ihInner
      rw [parseAll_eq, parseRound_element (parseAll processEntities) blank tag more
        (by rw [ihInner]; rfl) same, ihOthers, ihInner]
      simp [Level.insertFirst, Nodes.append]

/-- A document whose text is one of nodes, with blanks or an end tag behind them. -/
def IsDocument (processEntities : Bool) (p : Text) (nodes : Nodes StrPair) : Prop :=
  ∃ mid, Reads processEntities p nodes mid ∧
    (Blank mid ∨ ∃ name rest, ReadsEndTag processEntities mid name rest)

/-- A document is accepted, with just these children, if and only if its text is in the
language. -/
theorem documentParseDeep_accepts_iff {writeBOM : Bool} {nodes : Nodes StrPair} :
    documentParseDeep processEntities writeBOM p = some ⟨nodes, writeBOM, none⟩ ↔
      IsDocument processEntities p nodes := by
  constructor
  · intro accepted
    rcases parseAll_reads processEntities p with ⟨mid, reads, ends⟩
    have level : parseDeep processEntities p.length p = parseAll processEntities p := rfl
    simp only [documentParseDeep, level] at accepted
    generalize parseAll processEntities p = level at accepted reads ends
    rcases level with ⟨children, ending⟩
    cases ends with
    | atEnd blank =>
        cases accepted
        exact ⟨mid, reads, .inl blank⟩
    | failed error => cases accepted
    | nullRead => cases accepted
    | endTag readsEnd =>
        cases accepted
        exact ⟨mid, reads, .inr ⟨_, _, readsEnd⟩⟩
  · rintro ⟨mid, reads, blank | ⟨name, rest, readsEnd⟩⟩
    · have whole := parseAll_of_reads reads
      rw [parseAll_eq mid, parseRound_blank _ blank] at whole
      rw [parseAll] at whole
      simp [documentParseDeep, whole, Level.insertFirst]
    · have whole := parseAll_of_reads reads
      rw [parseAll_eq mid, parseRound_endTag _ readsEnd] at whole
      rw [parseAll] at whole
      simp [documentParseDeep, whole, Level.insertFirst]

/-- What `LoadXmlData` accepts, and the children it makes of it, are what the language
says. -/
theorem loadXmlData_accepts_iff {writeBOM : Bool} {nodes : Nodes StrPair} :
    loadXmlData processEntities writeBOM p = some ⟨nodes, writeBOM, none⟩ ↔
      IsDocument processEntities p nodes :=
  documentParseDeep_accepts_iff

end SandPlatform.Xml
