import SandPlatform.Xml.Nodes
import SandPlatform.Xml.Pieces

/-!
# The parser of tinyxml2

Every `ParseDeep` takes the pointer to what is to be parsed and returns the one behind
what it parsed, or null.  While it parses, the parser reads the names of elements and
attributes, and the value of an attribute that is there twice.  It ends them by null
characters in front of its pointer, so the text behind the pointer stays as it is.
-/

namespace SandPlatform.Xml

/-! ## Errors -/

/-- `XMLError`, as far as the parser sets it. -/
inductive ErrorId
  | parsingElement
  | parsingAttribute
  | parsingText
  | parsingCData
  | parsingComment
  | parsingDeclaration
  | parsingUnknown
  | emptyDocument
  | mismatchedElement
  | parsing
  deriving DecidableEq

/-- What `SetError` stores; the strings are pointers into the text. -/
structure Error where
  errorID : ErrorId
  errorStr1 : Option Text
  errorStr2 : Option Text
  deriving DecidableEq

/-- `_start`, with all that is behind it. -/
def StrPair.start (pair : StrPair) : Text :=
  pair.text ++ pair.rest

/-! ## Identify -/

/-- The kind of node that is created. -/
inductive Identified
  | leaf (kind : LeafKind)
  | element
  deriving DecidableEq

/-- What a declaration begins with. -/
def xmlHeader : Text :=
  bytes ['<', '?']

/-- What a comment begins with. -/
def commentHeader : Text :=
  bytes ['<', '!', '-', '-']

/-- What an unknown begins with. -/
def dtdHeader : Text :=
  bytes ['<', '!']

/-- What a CDATA section begins with. -/
def cdataHeader : Text :=
  bytes ['<', '!', '[', 'C', 'D', 'A', 'T', 'A', '[']

/-- What a tag begins with. -/
def elementHeader : Text :=
  bytes ['<']

/-- The node that is begun and the pointer to what it parses, or no node at the end. -/
def identify (start : Text) : Option (Identified × Text) :=
  let p := skipWhiteSpace start
  if p = [] then
    none
  else if stringEqual p xmlHeader 2 then
    some (.leaf .declaration, p.drop 2)
  else if stringEqual p commentHeader 4 then
    some (.leaf .comment, p.drop 4)
  else if stringEqual p cdataHeader 9 then
    some (.leaf .cdata, p.drop 9)
  else if stringEqual p dtdHeader 2 then
    some (.leaf .unknown, p.drop 2)
  else if stringEqual p elementHeader 1 then
    some (.element, p.drop 1)
  else
    some (.leaf .text, start)

/-! ## Leaves -/

/-- A null pointer, with the error if one was set. -/
abbrev LeafResult :=
  Except (Option Error) (StrPair × Text)

/-- A leaf is its text up to an end tag. -/
def leafParseDeep (endTag : Text) (flags : Flags) (id : ErrorId) (p : Text) : LeafResult :=
  match parseText p endTag flags with
  | none => .error (some ⟨id, some p, none⟩)
  | some parsed => .ok parsed

/-- What a CDATA section ends with. -/
def cdataEnd : Text :=
  bytes [']', ']', '>']

/-- What a comment ends with. -/
def commentEnd : Text :=
  bytes ['-', '-', '>']

/-- What a declaration ends with. -/
def xmlEnd : Text :=
  bytes ['?', '>']

/-- What an unknown ends with. -/
def dtdEnd : Text :=
  bytes ['>']

/-- `XMLText::ParseDeep` of a CDATA section. -/
def cdataParseDeep : Text → LeafResult :=
  leafParseDeep cdataEnd Flags.needsNewline .parsingCData

/-- `XMLComment::ParseDeep`. -/
def commentParseDeep : Text → LeafResult :=
  leafParseDeep commentEnd Flags.comment .parsingComment

/-- `XMLDeclaration::ParseDeep`. -/
def declarationParseDeep : Text → LeafResult :=
  leafParseDeep xmlEnd Flags.needsNewline .parsingDeclaration

/-- `XMLUnknown::ParseDeep`. -/
def unknownParseDeep : Text → LeafResult :=
  leafParseDeep dtdEnd Flags.needsNewline .parsingUnknown

/-- How a text is to be processed. -/
def textFlags (processEntities : Bool) : Flags :=
  if processEntities then Flags.textElement else Flags.textElementLeaveEntities

/-- The pointer goes back to the header of the next node, of which there must be more. -/
def textParseDeep (processEntities : Bool) (start : Text) : LeafResult :=
  match parseText start elementHeader (textFlags processEntities) with
  | none => .error (some ⟨.parsingText, some start, none⟩)
  | some (value, p) => if p = [] then .error none else .ok (value, elementHeader ++ p)

/-- The virtual call of `ParseDeep`. -/
def leafKindParseDeep (processEntities : Bool) : LeafKind → Text → LeafResult
  | .text => textParseDeep processEntities
  | .cdata => cdataParseDeep
  | .comment => commentParseDeep
  | .declaration => declarationParseDeep
  | .unknown => unknownParseDeep

/-! ## Attributes -/

/-- How the value of an attribute is to be processed. -/
def attributeFlags (processEntities : Bool) : Flags :=
  if processEntities then Flags.attributeValue else Flags.attributeValueLeaveEntities

/-- The name that was parsed stays also where the rest is not an attribute. -/
def attributeParseDeep (processEntities : Bool) (p : Text) :
    Option (Attribute StrPair × Text) :=
  match parseName p with
  | none => none
  | some (name, p) =>
      match skipWhiteSpace p with
      | [] => none
      | equals :: p =>
          if equals ≠ byte '=' then
            none
          else
            match skipWhiteSpace p with
            | [] => none
            | quote :: p =>
                if quote ≠ doubleQuote ∧ quote ≠ singleQuote then
                  none
                else
                  (parseText p [quote] (attributeFlags processEntities)).map fun value =>
                    (⟨name, value.1⟩, value.2)

/-- `FindAttribute` among the attributes so far. -/
def findAttribute (attributes : List (Attribute StrPair)) (name : Text) :
    Option (Attribute StrPair) :=
  attributes.find? fun a => sameString a.name.text name

/-- How the parsing of the attributes ends: `nullRead` is a null pointer that `GetStr`
reads. -/
inductive AttributesResult
  | null (error : Error)
  | nullRead
  | attributes (attributes : List (Attribute StrPair)) (closed : Bool) (p : Text)

/-- The attributes from `p` on, behind those that are in the list.  The loop goes on for
as long as there is text. -/
def parseAttributes (processEntities : Bool) (start name : Text) :
    Nat → List (Attribute StrPair) → Text → AttributesResult
  | 0, _, _ => .null ⟨.parsingElement, some start, some name⟩
  | count + 1, list, p =>
      match skipWhiteSpace p with
      | [] => .null ⟨.parsingElement, some start, some name⟩
      | first :: rest =>
          if isAlpha first then
            match attributeParseDeep processEntities (first :: rest) with
            | none => .null ⟨.parsingAttribute, some start, none⟩
            | some (attrib, p) =>
                match findAttribute list attrib.name.text with
                | none => parseAttributes processEntities start name count (list ++ [attrib]) p
                | some found =>
                    if decode found.value.flags found.value.text = none then
                      .nullRead
                    else
                      .null ⟨.parsingAttribute, some start, some p⟩
          else if first = byte '/' ∧ rest[0]? = some (byte '>') then
            .attributes list true (rest.drop 1)
          else if first = byte '>' then
            .attributes list false rest
          else
            .null ⟨.parsingElement, some start, some (first :: rest)⟩

/-! ## Elements -/

/-- `_closingType` of an element. -/
inductive ClosingType
  | open
  | closed
  | closing
  deriving DecidableEq

/-- What a tag is: an error, a null pointer that is read, or a tag and what is behind it. -/
inductive TagResult
  | null (error : Option Error)
  | nullRead
  | tag (name : StrPair) (attributes : List (Attribute StrPair)) (closingType : ClosingType)
      (p : Text)

/-- The part of `XMLElement::ParseDeep` in front of the children. -/
def parseTag (processEntities : Bool) (p : Text) : TagResult :=
  let p := skipWhiteSpace p
  let closing := p[0]? = some (byte '/')
  match parseName (if closing then p.drop 1 else p) with
  | none => .null none
  | some (name, p) =>
      match parseAttributes processEntities p name.start p.length [] p with
      | .null error => .null (some error)
      | .nullRead => .nullRead
      | .attributes attributes closed p =>
          .tag name attributes
            (if closed then .closed else if closing then .closing else .open) p

/-- How `ParseDeep` ends: an end tag is given to the parent with the pointer. -/
inductive Ending
  | null (error : Option Error)
  | nullRead
  | pointer (endTag : Option StrPair) (p : Text)

/-- The children that were inserted, and how the loop ended. -/
structure Level where
  children : Nodes StrPair
  ending : Ending

/-- A node is put in front of the others. -/
def Level.insertFirst (level : Level) (first : Nodes StrPair → Nodes StrPair) : Level :=
  ⟨first level.children, level.ending⟩

/-- An error is only set where none is set already. -/
def parsingError (error : Option Error) : Ending :=
  .null (some (error.getD ⟨.parsing, none, none⟩))

/-- An end tag that is missing, or of another element, or not expected. -/
def mismatched (endTag : Option StrPair) (closingType : ClosingType) (name : StrPair) : Bool :=
  match endTag with
  | none => closingType == .open
  | some tag => closingType != .open || !sameString tag.text name.text

/-- A round of the loop of `XMLNode::ParseDeep`, with the `ParseDeep` of its node.  The
loops of the children and of the next rounds are the parameter. -/
def parseRound (processEntities : Bool) (loop : Text → Level) (p : Text) : Level :=
  match identify p with
  | none => ⟨.nil, .null none⟩
  | some (.leaf kind, p) =>
      match leafKindParseDeep processEntities kind p with
      | .error error => ⟨.nil, parsingError error⟩
      | .ok (value, p) => (loop p).insertFirst (.leaf ⟨kind, value⟩)
  | some (.element, p) =>
      match parseTag processEntities p with
      | .null error => ⟨.nil, parsingError error⟩
      | .nullRead => ⟨.nil, .nullRead⟩
      | .tag name attributes closingType p =>
          let inner : Level :=
            if p = [] ∨ closingType ≠ .open then ⟨.nil, .pointer none p⟩ else loop p
          match inner.ending with
          | .null error => ⟨.nil, parsingError error⟩
          | .nullRead => ⟨.nil, .nullRead⟩
          | .pointer endTag p =>
              if closingType = .closing then
                ⟨.nil, .pointer (some name) p⟩
              else if mismatched endTag closingType name then
                ⟨.nil, .null (some ⟨.mismatchedElement, some name.start, none⟩)⟩
              else
                (loop p).insertFirst (.element name attributes inner.children)

/-- The loop of `XMLNode::ParseDeep`; each round takes one of the count and at least one
byte of the text. -/
def parseDeep (processEntities : Bool) : Nat → Text → Level
  | 0, _ => ⟨.nil, .null none⟩
  | count + 1, p => parseRound processEntities (parseDeep processEntities count) p

/-! ## Documents -/

/-- A document: its nodes, whether it has a byte order mark, and the error of its load. -/
structure Document where
  children : Nodes StrPair
  writeBOM : Bool
  error : Option Error
  deriving DecidableEq

/-- The document after its `ParseDeep`. -/
def documentParseDeep (processEntities writeBOM : Bool) (p : Text) : Option Document :=
  let level := parseDeep processEntities p.length p
  match level.ending with
  | .null error => some ⟨level.children, writeBOM, error⟩
  | .nullRead => none
  | .pointer _ _ => some ⟨level.children, writeBOM, none⟩

/-- `LoadXmlData`, which does not look for a byte order mark. -/
def loadXmlData (processEntities writeBOM : Bool) (xmldata : Text) : Option Document :=
  documentParseDeep processEntities writeBOM xmldata

/-- `Parse`; a null pointer is taken as an empty string. -/
def parse (processEntities writeBOM : Bool) (p : Text) : Option Document :=
  if p = [] then
    some ⟨.nil, writeBOM, some ⟨.emptyDocument, none, none⟩⟩
  else
    let (writeBOM, p) := readBOM (skipWhiteSpace p)
    if p = [] then
      some ⟨.nil, writeBOM, some ⟨.emptyDocument, none, none⟩⟩
    else
      documentParseDeep processEntities writeBOM p

end SandPlatform.Xml
