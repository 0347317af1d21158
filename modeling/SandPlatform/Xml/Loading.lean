import SandPlatform.Xml.Values

/-!
# The strings that are read while a document is loaded

The parser reads some of the strings that it parses: a name of an attribute is looked for
among those in front of it, and the name of an end tag is compared with the one of the
element.  The memory is not the text any more when the document is loaded.  All strings
of the parser are apart, those of the nodes and those of what it gave up, so that what
was read so far makes no difference to what is read afterwards.
-/

namespace SandPlatform.Xml

open SandPlatform.Foundation

/-! ## What the parser reads -/

/-- What `Attribute` reads: the names up to the one that is found, and its value. -/
def findReads (name : Text) : List (Attribute StrPair) → List StrPair
  | [] => []
  | a :: others =>
      a.name :: if sameString a.name.text name then [a.value] else findReads name others

/-- What `ParseAttributes` reads.  The name of the element is in the error for the end of
the text. -/
def attributesReads (processEntities : Bool) (name : StrPair) :
    Nat → List (Attribute StrPair) → Text → List StrPair
  | 0, _, _ => [name]
  | count + 1, list, p =>
      match skipWhiteSpace p with
      | [] => [name]
      | first :: rest =>
          if isAlpha first then
            match attributeParseDeep processEntities (first :: rest) with
            | none => []
            | some (attrib, p) =>
                attrib.name :: (findReads attrib.name.text list ++
                  match findAttribute list attrib.name.text with
                  | none => attributesReads processEntities name count (list ++ [attrib]) p
                  | some _ => [])
          else
            []

/-- What `XMLElement::ParseDeep` reads in front of the children. -/
def tagReads (processEntities : Bool) (p : Text) : List StrPair :=
  let p := skipWhiteSpace p
  let closing := p[0]? = some (byte '/')
  match parseName (if closing then p.drop 1 else p) with
  | none => []
  | some (name, p) => attributesReads processEntities name p.length [] p

/-- The names that are compared behind an element, or are in an error. -/
def endReads (endTag : Option StrPair) (closingType : ClosingType) (name : StrPair) :
    List StrPair :=
  match endTag with
  | none => if closingType = .open then [name] else []
  | some tag => if closingType = .open then [tag, name] else [name]

/-- What a round of the loop of `XMLNode::ParseDeep` reads; the loops of the children and
of the next rounds are the parameters. -/
def roundReads (processEntities : Bool) (loop : Text → Level) (loopReads : Text → List StrPair)
    (p : Text) : List StrPair :=
  match identify p with
  | none => []
  | some (.leaf kind, p) =>
      match leafKindParseDeep processEntities kind p with
      | .error _ => []
      | .ok (_, p) => loopReads p
  | some (.element, p) =>
      tagReads processEntities p ++
        match parseTag processEntities p with
        | .null _ => []
        | .nullRead => []
        | .tag name _ closingType p =>
            let early := p = [] ∨ closingType ≠ .open
            let inner : Level := if early then ⟨.nil, .pointer none p⟩ else loop p
            (if early then [] else loopReads p) ++
              match inner.ending with
              | .null _ => []
              | .nullRead => []
              | .pointer endTag p =>
                  if closingType = .closing then
                    []
                  else
                    endReads endTag closingType name ++
                      if mismatched endTag closingType name then [] else loopReads p

/-- What the loop of `XMLNode::ParseDeep` reads, until it returns. -/
def parseReads (processEntities : Bool) : Nat → Text → List StrPair
  | 0, _ => []
  | count + 1, p =>
      roundReads processEntities (parseDeep processEntities count)
        (parseReads processEntities count) p

/-- The strings that are read while a text is loaded, in their order. -/
def loadReads (processEntities : Bool) (xmldata : Text) : List StrPair :=
  parseReads processEntities xmldata.length xmldata

variable {processEntities : Bool} {p mid rest : Text}

/-! ## Attributes -/

section Attributes

variable {list : List (Attribute StrPair)}

theorem value_of_none {pair : StrPair} (plain : pair.flags = Flags.none) :
    pair.value ≠ none := by
  rw [StrPair.value, plain, valueInPlace_none]
  exact Option.some_ne_none _

theorem findReads_subset (name : Text) (list : List (Attribute StrPair)) :
    findReads name list ⊆ attributePairs list := by
  induction list with
  | nil => exact List.Subset.refl _
  | cons a others ih =>
      have pairs : attributePairs (a :: others) = a.name :: a.value :: attributePairs others :=
        rfl
      rw [pairs, findReads]
      refine List.cons_subset_cons _ ?_
      split_ifs
      · exact List.cons_subset.mpr ⟨List.mem_cons_self, List.nil_subset _⟩
      · exact List.Subset.trans ih (List.subset_cons_self _ _)

/-- The value of the attribute that is found is all that may have no value. -/
theorem findReads_none_iff (name : Text) (plain : ∀ a ∈ list, a.name.flags = Flags.none) :
    (∃ r ∈ findReads name list, r.value = none) ↔
      ∃ found, findAttribute list name = some found ∧ found.value.value = none := by
  induction list with
  | nil => simp [findReads, findAttribute]
  | cons a others ih =>
      rw [List.forall_mem_cons] at plain
      have value := value_of_none plain.1
      have further := ih plain.2
      rw [findAttribute] at further ⊢
      cases same : sameString a.name.text name with
      | true => simp [findReads, same, value]
      | false => simp [findReads, same, value, further]

theorem ReadsAttribute.plain {attrib : Attribute StrPair}
    (reads : ReadsAttribute processEntities p attrib rest) : attrib.name.flags = Flags.none := by
  cases reads
  rfl

/-- The strings that are read are those of attributes that were read, and the name. -/
theorem attributesReads_subset (start name' : Text) (name : StrPair) (count : Nat)
    (list : List (Attribute StrPair)) (p : Text) :
    ∃ more mid, ReadsAttributes processEntities p more mid ∧
      attributesReads processEntities name count list p ⊆ name :: attributePairs (list ++ more) ∧
      ∀ attributes closed rest, parseAttributes processEntities start name' count list p =
        .attributes attributes closed rest → attributes = list ++ more := by
  induction count generalizing list p with
  | zero => exact ⟨[], p, .nil p, by simp [attributesReads], by simp [parseAttributes]⟩
  | succ count ih =>
      rcases exists_blank_append p with ⟨blanks, blank, split, _⟩
      rw [attributesReads, parseAttributes]
      cases sees : skipWhiteSpace p with
      | nil => exact ⟨[], p, .nil p, by simp, by simp⟩
      | cons first others =>
          rw [sees] at split
          simp only
          by_cases letter : isAlpha first = true
          · rw [if_pos letter, if_pos letter]
            cases parsed : attributeParseDeep processEntities (first :: others) with
            | none => exact ⟨[], p, .nil p, by simp, by simp⟩
            | some part =>
                rcases part with ⟨attrib, p'⟩
                have reads := attributeParseDeep_eq_some_iff.mp parsed
                have searched := findReads_subset attrib.name.text list
                simp only
                cases found : findAttribute list attrib.name.text with
                | none =>
                    simp only
                    rcases ih (list ++ [attrib]) p' with ⟨more, mid, readsMore, sub, whole⟩
                    refine ⟨attrib :: more, mid, ?_, ?_, ?_⟩
                    · rw [split]
                      exact .cons blank reads readsMore
                    · rw [List.append_assoc, List.singleton_append] at sub
                      refine List.cons_subset.mpr ⟨?_, List.append_subset.mpr ⟨?_, sub⟩⟩
                      · simp [attributePairs]
                      · intro r member
                        have listed := searched member
                        simp only [attributePairs, List.flatMap_append, List.mem_cons,
                          List.mem_append] at listed ⊢
                        exact .inr (.inl listed)
                    · simpa using whole
                | some earlier =>
                    simp only [List.append_nil]
                    refine ⟨[attrib], p', ?_, ?_, ?_⟩
                    · rw [split]
                      exact .cons blank reads (.nil p')
                    · refine List.cons_subset.mpr ⟨by simp [attributePairs], fun r member => ?_⟩
                      have listed := searched member
                      simp only [attributePairs, List.flatMap_append, List.mem_cons,
                        List.mem_append] at listed ⊢
                      exact .inr (.inl listed)
                    · split_ifs <;> simp
          · rw [if_neg letter, if_neg letter]
            refine ⟨[], p, .nil p, List.nil_subset _, ?_⟩
            rw [List.append_nil]
            split_ifs
            · rintro _ _ _ ⟨⟩
              rfl
            · rintro _ _ _ ⟨⟩
              rfl
            · rintro _ _ _ ⟨⟩

/-- The loop reads a null pointer exactly if one of these strings has no value. -/
theorem parseAttributes_nullRead_iff (start name' : Text) {name : StrPair}
    (value : name.value ≠ none) (count : Nat)
    (plain : ∀ a ∈ list, a.name.flags = Flags.none) :
    parseAttributes processEntities start name' count list p = .nullRead ↔
      ∃ r ∈ attributesReads processEntities name count list p, r.value = none := by
  induction count generalizing list p with
  | zero => simp [parseAttributes, attributesReads, value]
  | succ count ih =>
      rw [attributesReads, parseAttributes]
      cases sees : skipWhiteSpace p with
      | nil => simp [value]
      | cons first others =>
          simp only
          by_cases letter : isAlpha first = true
          · rw [if_pos letter, if_pos letter]
            cases parsed : attributeParseDeep processEntities (first :: others) with
            | none => simp
            | some part =>
                rcases part with ⟨attrib, p'⟩
                have named := (attributeParseDeep_eq_some_iff.mp parsed).plain
                have nameValue := value_of_none named
                have search := findReads_none_iff attrib.name.text plain
                simp only
                cases found : findAttribute list attrib.name.text with
                | none =>
                    have plain' : ∀ a ∈ list ++ [attrib], a.name.flags = Flags.none := by
                      intro a member
                      rcases List.mem_append.mp member with old | new
                      · exact plain a old
                      · rw [List.mem_singleton.mp new]
                        exact named
                    rw [found] at search
                    simp only [reduceCtorEq, false_and, exists_false, iff_false] at search
                    simp only [ih plain', List.mem_cons, List.mem_append]
                    constructor
                    · rintro ⟨r, member, none⟩
                      exact ⟨r, .inr (.inr member), none⟩
                    · rintro ⟨r, rfl | member | member, none⟩
                      · exact absurd none nameValue
                      · exact absurd ⟨r, member, none⟩ search
                      · exact ⟨r, member, none⟩
                | some earlier =>
                    rw [found] at search
                    have decoded : earlier.value.value = Option.none ↔
                        decode earlier.value.flags earlier.value.text = Option.none :=
                      valueInPlace_eq_none_iff
                    simp only [Option.some.injEq, exists_eq_left', decoded] at search
                    simp only [List.append_nil, List.exists_mem_cons_iff, nameValue, false_or,
                      search]
                    split_ifs with null
                    · simp [null]
                    · simp [null]
          · rw [if_neg letter, if_neg letter]
            split_ifs <;> simp

end Attributes

/-! ## Tags -/

section Tags

variable {name : StrPair} {attributes : List (Attribute StrPair)} {closingType : ClosingType}

theorem ReadsTag.plain (reads : ReadsTag processEntities p name attributes closingType rest) :
    name.flags = Flags.none := by
  cases reads
  rfl

/-- The strings that are read of a tag, also of one that is given up, are apart. -/
theorem tagReads_spread (processEntities : Bool) (blanks p : Text) :
    Spread (blanks ++ byte '<' :: p) (tagReads processEntities p) := by
  rw [tagReads]
  cases parsed : parseName (if (skipWhiteSpace p)[0]? = some (byte '/') then
      (skipWhiteSpace p).drop 1 else skipWhiteSpace p) with
  | none => exact (inside_nil _ []).toSpread
  | some part =>
      rcases part with ⟨name, q⟩
      rcases parseName_eq_some_iff.mp parsed with ⟨whole, _, ends, same⟩
      rcases exists_blank_append p with ⟨front, _, split, _⟩
      have behind : skipWhiteSpace p <:+ p := ⟨front, split.symm⟩
      have named : name.text ++ q <:+ p := by
        rw [← whole]
        split_ifs
        · exact (List.drop_suffix _ _).trans behind
        · exact behind
      rcases attributesReads_subset q name.start name q.length [] q with ⟨more, last, reads, sub, _⟩
      rcases reads.between_name ends named with ⟨ordered, starts⟩
      rw [← same] at ordered starts
      exact (spread_of_ordered blanks (byte '<') ordered starts).subset sub

/-- The strings that are read of a whole tag are its own. -/
theorem tagReads_subset
    (parsed : parseTag processEntities p = .tag name attributes closingType rest) :
    tagReads processEntities p ⊆ name :: attributePairs attributes := by
  rw [parseTag] at parsed
  rw [tagReads]
  cases named : parseName (if (skipWhiteSpace p)[0]? = some (byte '/') then
      (skipWhiteSpace p).drop 1 else skipWhiteSpace p) with
  | none => exact List.nil_subset _
  | some part =>
      rcases part with ⟨name', q⟩
      rcases attributesReads_subset q name'.start name' q.length [] q with
        ⟨more, last, _, sub, whole⟩
      simp only [named] at parsed ⊢
      cases result : parseAttributes processEntities q name'.start q.length [] q with
      | null error => simp [result] at parsed
      | nullRead => simp [result] at parsed
      | attributes attributes' closed q' =>
          simp only [result, TagResult.tag.injEq] at parsed
          rw [← whole attributes' closed q' result] at sub
          rcases parsed with ⟨rfl, rfl, _⟩
          exact sub

theorem parseTag_nullRead_iff (processEntities : Bool) (p : Text) :
    parseTag processEntities p = .nullRead ↔
      ∃ r ∈ tagReads processEntities p, r.value = none := by
  rw [parseTag, tagReads]
  cases named : parseName (if (skipWhiteSpace p)[0]? = some (byte '/') then
      (skipWhiteSpace p).drop 1 else skipWhiteSpace p) with
  | none => simp
  | some part =>
      rcases part with ⟨name, q⟩
      have plain : name.flags = Flags.none := by
        rw [(parseName_eq_some_iff.mp named).2.2.2]
      simp only
      rw [← parseAttributes_nullRead_iff q name.start (value_of_none plain) q.length (by simp)]
      cases parseAttributes processEntities q name.start q.length [] q <;> simp

end Tags

/-! ## Nodes -/

/-- The end tag that is given to the parent. -/
def Ending.endPairs : Ending → List StrPair
  | .pointer (some endTag) _ => [endTag]
  | _ => []

/-- The strings of the children, those that were read, and the end tag. -/
def Level.strings (level : Level) (reads : List StrPair) : List StrPair :=
  level.children.pairs ++ (reads ++ level.ending.endPairs)

/-- What is known of the strings of a loop: they are apart, also from what is behind the
pointer that is returned, and a null pointer is read exactly for one without a value. -/
structure Loaded (p : Text) (level : Level) (reads : List StrPair) : Prop where
  spread : Spread p (level.strings reads)
  inside : ∀ endTag rest, level.ending = .pointer endTag rest →
    Inside p rest (level.strings reads) ∧ rest <:+ p
  failed : level.ending = .nullRead ↔ ∃ a ∈ reads, a.value = none
  ended : ∀ a ∈ level.ending.endPairs, a.value ≠ none

section Levels

variable {level : Level} {reads front early : List StrPair}

theorem loaded_null (error : Option Error) (spread : Spread p reads)
    (values : ∀ a ∈ reads, a.value ≠ none) : Loaded p ⟨.nil, .null error⟩ reads := by
  refine ⟨?_, by simp, ?_, by simp [Ending.endPairs]⟩
  · simpa [Level.strings, Nodes.pairs, Ending.endPairs] using spread
  · simpa using values

theorem loaded_nullRead (spread : Spread p reads) (failed : ∃ a ∈ reads, a.value = none) :
    Loaded p ⟨.nil, .nullRead⟩ reads := by
  refine ⟨?_, by simp, by simpa using failed, by simp [Ending.endPairs]⟩
  simpa [Level.strings, Nodes.pairs, Ending.endPairs] using spread

theorem loaded_endTag {endTag : StrPair} (inside : Inside p rest (reads ++ [endTag]))
    (behind : rest <:+ p) (values : ∀ a ∈ reads, a.value ≠ none) (value : endTag.value ≠ none) :
    Loaded p ⟨.nil, .pointer (some endTag) rest⟩ reads := by
  refine ⟨inside.toSpread, ?_, by simpa using values, by simpa [Ending.endPairs] using value⟩
  rintro _ _ ⟨⟩
  exact ⟨inside, behind⟩

/-- A node in front of those of a loop. -/
theorem Loaded.insertFirst {first : Nodes StrPair → Nodes StrPair}
    (loaded : Loaded mid level reads) (inside : Inside p mid front) (behind : mid <:+ p)
    (children : ∀ others, (first others).pairs ⊆ front ++ others.pairs) (sub : early ⊆ front)
    (values : ∀ a ∈ early, a.value ≠ none) :
    Loaded p (level.insertFirst first) (early ++ reads) := by
  have strings : (level.insertFirst first).strings (early ++ reads) ⊆
      front ++ level.strings reads := by
    intro a member
    simp only [Level.strings, Level.insertFirst, List.mem_append] at member ⊢
    rcases member with inChildren | (inEarly | inReads) | isEnd
    · have listed := children _ inChildren
      rw [List.mem_append] at listed
      exact listed.imp_right .inl
    · exact .inl (sub inEarly)
    · exact .inr (.inr (.inl inReads))
    · exact .inr (.inr (.inr isEnd))
  refine ⟨(inside.spread_append loaded.spread behind).subset strings, ?_, ?_, loaded.ended⟩
  · intro endTag rest ends
    rcases loaded.inside endTag rest ends with ⟨inside', behind'⟩
    exact ⟨(inside.append inside' behind behind').subset strings, behind'.trans behind⟩
  · refine loaded.failed.trans ⟨?_, ?_⟩
    · rintro ⟨a, member, null⟩
      exact ⟨a, List.mem_append_right _ member, null⟩
    · rintro ⟨a, member, null⟩
      rcases List.mem_append.mp member with inEarly | inReads
      · exact absurd null (values a inEarly)
      · exact ⟨a, inReads, null⟩

end Levels

theorem endReads_open_subset (endTag : Option StrPair) (name : StrPair) (q : Text) :
    endReads endTag .open name ⊆ name :: (Ending.pointer endTag q).endPairs := by
  cases endTag <;> simp [endReads, Ending.endPairs]

section Round

variable {loop : Text → Level} {loopReads : Text → List StrPair}

/-- An element with an opening tag, when its children have been parsed. -/
theorem loaded_element (ih : ∀ q, Loaded q (loop q) (loopReads q)) {name : StrPair}
    {attributes : List (Attribute StrPair)} {tagged : List StrPair} {children : Text}
    (inside : Inside p children (name :: attributePairs attributes)) (behind : children <:+ p)
    (plain : name.flags = Flags.none) (sub : tagged ⊆ name :: attributePairs attributes)
    (values : ∀ a ∈ tagged, a.value ≠ none) :
    Loaded p
      (match (loop children).ending with
        | .null error => ⟨.nil, parsingError error⟩
        | .nullRead => ⟨.nil, .nullRead⟩
        | .pointer endTag p =>
            if mismatched endTag .open name then
              ⟨.nil, .null (some ⟨.mismatchedElement, some name.start, none⟩)⟩
            else
              (loop p).insertFirst (.element name attributes (loop children).children))
      (tagged ++ (loopReads children ++
        match (loop children).ending with
        | .null _ => []
        | .nullRead => []
        | .pointer endTag p =>
            endReads endTag .open name ++
              if mismatched endTag .open name then [] else loopReads p)) := by
  have inner := ih children
  have value := value_of_none plain
  have whole := inside.spread_append inner.spread behind
  have outer : tagged ++ loopReads children ⊆
      (name :: attributePairs attributes) ++ (loop children).strings (loopReads children) :=
    List.append_subset.mpr ⟨List.Subset.trans sub (List.subset_append_left _ _),
      fun a member => List.mem_append_right _
        (List.mem_append_right _ (List.mem_append_left _ member))⟩
  cases ending : (loop children).ending with
  | null error =>
      have noFailure := mt inner.failed.mpr (by rw [ending]; simp)
      simp only [List.append_nil]
      refine loaded_null _ (whole.subset outer) fun a member => ?_
      rcases List.mem_append.mp member with inTag | inInner
      · exact values a inTag
      · exact fun null => noFailure ⟨a, inInner, null⟩
  | nullRead =>
      rcases inner.failed.mp ending with ⟨a, member, null⟩
      simp only [List.append_nil]
      exact loaded_nullRead (whole.subset outer) ⟨a, List.mem_append_right _ member, null⟩
  | pointer endTag q =>
      have noFailure := mt inner.failed.mpr (by rw [ending]; simp)
      rcases inner.inside endTag q ending with ⟨inside', behind'⟩
      have both := inside.append inside' behind behind'
      have ends := endReads_open_subset endTag name q
      rw [← ending] at ends
      have ends' : endReads endTag .open name ⊆
          (name :: attributePairs attributes) ++ (loop children).strings (loopReads children) := by
        intro a member
        rcases List.mem_cons.mp (ends member) with rfl | isEnd
        · exact List.mem_append_left _ List.mem_cons_self
        · exact List.mem_append_right _ (List.mem_append_right _ (List.mem_append_right _ isEnd))
      have early : (tagged ++ loopReads children) ++ endReads endTag .open name ⊆
          (name :: attributePairs attributes) ++ (loop children).strings (loopReads children) :=
        List.append_subset.mpr ⟨outer, ends'⟩
      have earlyValues : ∀ a ∈ (tagged ++ loopReads children) ++ endReads endTag .open name,
          a.value ≠ none := by
        intro a member
        rcases List.mem_append.mp member with inOuter | isEnd
        · rcases List.mem_append.mp inOuter with inTag | inInner
          · exact values a inTag
          · exact fun null => noFailure ⟨a, inInner, null⟩
        · rcases List.mem_cons.mp (ends isEnd) with rfl | isEnd
          · exact value
          · exact inner.ended a isEnd
      simp only
      rw [← List.append_assoc, ← List.append_assoc]
      split_ifs with mismatch
      · rw [List.append_nil]
        exact loaded_null _ (both.toSpread.subset early) earlyValues
      · refine (ih q).insertFirst both (behind'.trans behind) (fun others a member => ?_) early
          earlyValues
        simp only [Nodes.pairs, Level.strings, List.mem_cons, List.mem_append] at member ⊢
        tauto

/-- One round keeps what is known. -/
theorem round_loaded (ih : ∀ q, Loaded q (loop q) (loopReads q)) (p : Text) :
    Loaded p (parseRound processEntities loop p)
      (roundReads processEntities loop loopReads p) := by
  unfold parseRound roundReads
  cases found : identify p with
  | none => exact loaded_null _ (inside_nil p []).toSpread (by simp)
  | some part =>
      rcases part with ⟨kind | _, q⟩
      · cases parsed : leafKindParseDeep processEntities kind q with
        | error error =>
            simp only [parsed]
            exact loaded_null _ (inside_nil p []).toSpread (by simp)
        | ok part =>
            rcases part with ⟨value, p'⟩
            simp only [parsed]
            rcases (readsLeaf_iff.mp ⟨q, found, parsed⟩).inside with ⟨inside, behind⟩
            exact (ih p').insertFirst inside behind
              (fun others => by simp [Nodes.pairs]) (List.nil_subset _) (by simp)
      · rcases identify_eq_some_iff.mp found with _ | _ | ⟨_, blank, _⟩
        rename_i blanks noMark
        have spread := tagReads_spread processEntities blanks q
        have failed := parseTag_nullRead_iff processEntities q
        cases parsed : parseTag processEntities q with
        | null error =>
            rw [parsed] at failed
            simp only [parsed, List.append_nil]
            exact loaded_null _ spread fun a member null => by
              cases failed.mpr ⟨a, member, null⟩
        | nullRead =>
            simp only [parsed, List.append_nil]
            exact loaded_nullRead spread (failed.mp parsed)
        | tag name attributes closingType p' =>
            rw [parsed] at failed
            have tag := parseTag_eq_tag_iff.mp parsed
            have sub := tagReads_subset parsed
            have values : ∀ a ∈ tagReads processEntities q, a.value ≠ none := by
              intro a member null
              cases failed.mpr ⟨a, member, null⟩
            have value := value_of_none tag.plain
            have inside := tag.between.1.inside blanks (byte '<')
            have behind := tag.behind blanks
            simp only [parsed]
            cases closingType with
            | closing =>
                simp only [ne_eq, reduceCtorEq, not_false_eq_true, or_true, if_true,
                  List.append_nil]
                refine loaded_endTag (inside.subset ?_) behind values value
                exact List.append_subset.mpr ⟨sub, List.cons_subset.mpr
                  ⟨List.mem_cons_self, List.nil_subset _⟩⟩
            | closed =>
                simp only [ne_eq, reduceCtorEq, not_false_eq_true, or_true, if_true, if_false,
                  mismatched, beq_iff_eq, endReads, List.nil_append]
                exact (ih p').insertFirst inside behind (fun others => by simp [Nodes.pairs]) sub
                  values
            | «open» =>
                by_cases atEnd : p' = []
                · simp only [atEnd, true_or, if_true, reduceCtorEq, if_false, mismatched,
                    beq_self_eq_true, endReads, List.nil_append, List.append_nil]
                  refine loaded_null _ (inside.toSpread.subset (List.append_subset.mpr ⟨sub, ?_⟩))
                    fun a member => ?_
                  · exact List.cons_subset.mpr ⟨List.mem_cons_self, List.nil_subset _⟩
                  · rcases List.mem_append.mp member with inTag | isName
                    · exact values a inTag
                    · rw [List.mem_singleton.mp isName]
                      exact value
                · simp only [ne_eq, not_true_eq_false, or_false, reduceCtorEq, if_false, atEnd]
                  exact loaded_element ih inside behind tag.plain sub values

theorem parseDeep_loaded (processEntities : Bool) (count : Nat) (p : Text) :
    Loaded p (parseDeep processEntities count p) (parseReads processEntities count p) := by
  induction count generalizing p with
  | zero => exact loaded_null _ (inside_nil p []).toSpread (by simp [parseReads])
  | succ count ih => exact round_loaded ih p

end Round

/-! ## Documents -/

theorem loadXmlData_eq_none_iff {writeBOM : Bool} :
    loadXmlData processEntities writeBOM p = none ↔
      (parseDeep processEntities p.length p).ending = .nullRead := by
  rw [loadXmlData, documentParseDeep]
  cases (parseDeep processEntities p.length p).ending <;> simp

theorem children_of_loadXmlData {writeBOM : Bool} {document : Document}
    (loaded : loadXmlData processEntities writeBOM p = some document) :
    document.children = (parseDeep processEntities p.length p).children := by
  rw [loadXmlData, documentParseDeep] at loaded
  cases ending : (parseDeep processEntities p.length p).ending <;>
    simp only [ending, Option.some.injEq, reduceCtorEq] at loaded
  all_goals rw [← loaded]

/-- The strings of a document can be read in any order and any number of times, in the
memory that its load leaves.  The load fails exactly if a string that it reads has no
value.  Afterwards each string of the document has the value that its own text has,
whatever was read before or is read after it, and a null pointer is read only for a string
whose text has no value. -/
theorem loadXmlData_values {writeBOM : Bool} {base : Nat} {memory : Memory Byte}
    (clean : 0 ∉ p) (text : memory.read base p.length = p) :
    (getValues base p.length (loadReads processEntities p) ⟨memory, []⟩ = none ↔
        loadXmlData processEntities writeBOM p = none) ∧
      ∀ document, loadXmlData processEntities writeBOM p = some document →
        ∃ s, getValues base p.length (loadReads processEntities p) ⟨memory, []⟩ = some s ∧
          ∀ order, (∀ a ∈ order, a ∈ document.children.pairs) →
            (getValues base p.length order s = none ↔ ∃ a ∈ order, a.value = none) ∧
            ∀ s', getValues base p.length order s = some s' →
              ∀ a ∈ order, ∃ value, a.value = some value ∧
                Holds s'.memory (place base p.length a.start) value := by
  have level := parseDeep_loaded processEntities p.length p
  have reads : ∀ a ∈ loadReads processEntities p,
      a ∈ (parseDeep processEntities p.length p).strings (loadReads processEntities p) :=
    fun a member => List.mem_append_right _ (List.mem_append_left _ member)
  rcases getValues_settled clean level.spread (settled_nil text level.spread) reads with
    ⟨failed, run⟩
  have loads : getValues base p.length (loadReads processEntities p) ⟨memory, []⟩ = none ↔
      loadXmlData processEntities writeBOM p = none :=
    failed.trans (level.failed.symm.trans loadXmlData_eq_none_iff.symm)
  refine ⟨loads, fun document loaded => ?_⟩
  have succeeds : getValues base p.length (loadReads processEntities p) ⟨memory, []⟩ ≠ none := by
    intro none
    rw [loads.mp none] at loaded
    cases loaded
  rcases Option.ne_none_iff_exists'.mp succeeds with ⟨s, got⟩
  refine ⟨s, got, fun order all => ?_⟩
  -- what the load has read is settled, and so is what is read from there
  rw [children_of_loadXmlData loaded] at all
  rcases getValues_settled clean level.spread (run s got).1
    fun a member => List.mem_append_left _ (all a member) with ⟨failed', run'⟩
  refine ⟨failed', fun s' got' a member => ?_⟩
  rcases run' s' got' with ⟨settled, flushed, _⟩
  rcases settled.read a (flushed member) with ⟨_, value, same, _, holds⟩
  exact ⟨value, same, holds⟩

/-- The load reads the name of the element and the one of its end tag.  Then the text of the
element is read, its name, and its text again. -/
theorem loadXmlData_values_again :
    ∃ s s', getValues 0 8
        [⟨bytes ['a'], bytes ['>'], Flags.none⟩,
          ⟨bytes ['a'], bytes ['>', 'x', '<', '/', 'a', '>'], Flags.none⟩]
        ⟨Memory.ofList (bytes ['<', 'a', '>', 'x', '<', '/', 'a', '>']) fun _ => 0, []⟩ = some s ∧
      s.memory 2 = 0 ∧ s.memory 7 = 0 ∧
      getValues 0 8
        [⟨bytes ['x'], bytes ['<', '/', 'a', '>'], Flags.textElement⟩,
          ⟨bytes ['a'], bytes ['>', 'x', '<', '/', 'a', '>'], Flags.none⟩,
          ⟨bytes ['x'], bytes ['<', '/', 'a', '>'], Flags.textElement⟩] s = some s' ∧
      Holds s'.memory 3 (bytes ['x']) := by
  let start : Strings :=
    ⟨Memory.ofList (bytes ['<', 'a', '>', 'x', '<', '/', 'a', '>']) fun _ => 0, []⟩
  let order : List StrPair :=
    [⟨bytes ['x'], bytes ['<', '/', 'a', '>'], Flags.textElement⟩,
      ⟨bytes ['a'], bytes ['>', 'x', '<', '/', 'a', '>'], Flags.none⟩,
      ⟨bytes ['x'], bytes ['<', '/', 'a', '>'], Flags.textElement⟩]
  let children : Nodes StrPair :=
    .element ⟨bytes ['a'], bytes ['>', 'x', '<', '/', 'a', '>'], Flags.none⟩ []
      (.leaf ⟨.text, ⟨bytes ['x'], bytes ['<', '/', 'a', '>'], Flags.textElement⟩⟩ .nil) .nil
  have clean : 0 ∉ bytes ['<', 'a', '>', 'x', '<', '/', 'a', '>'] := by decide
  have text : start.memory.read 0 (bytes ['<', 'a', '>', 'x', '<', '/', 'a', '>']).length =
      bytes ['<', 'a', '>', 'x', '<', '/', 'a', '>'] := by decide
  have loaded : loadXmlData true false (bytes ['<', 'a', '>', 'x', '<', '/', 'a', '>']) =
      some ⟨children, false, none⟩ := by decide
  have nulls : (getValues 0 8 (loadReads true (bytes ['<', 'a', '>', 'x', '<', '/', 'a', '>']))
      start).map (fun s => (s.memory 2, s.memory 7)) = some (0, 0) := by decide
  have all : ∀ a ∈ order, a ∈ children.pairs := by decide
  have noFailure : ¬ ∃ a ∈ order, a.value = none := by decide
  rcases (loadXmlData_values clean text).2 _ loaded with ⟨s, got, values⟩
  rcases values order all with ⟨failed, run⟩
  rcases Option.ne_none_iff_exists'.mp (fun none => noFailure (failed.mp none)) with ⟨s', got'⟩
  rcases run s' got' _ List.mem_cons_self with ⟨value, same, holds⟩
  cases same
  have size : (bytes ['<', 'a', '>', 'x', '<', '/', 'a', '>']).length = 8 := rfl
  rw [size] at got
  rw [got] at nulls
  simp only [Option.map_some, Option.some.injEq, Prod.mk.injEq] at nulls
  exact ⟨s, s', got, nulls.1, nulls.2, got', holds⟩

end SandPlatform.Xml
