import Mathlib.Algebra.Group.Nat.Defs
import SandPlatform.Foundation.Scanning

/-!
# Reading text

The parser of tinyxml2 goes through a C string by pointers.  A pointer stands here for
the text it sees, which is never beyond the end of the string, so a null character is
read exactly where this text is empty.
-/

namespace SandPlatform.Xml

open SandPlatform.Foundation

/-- A `char`. -/
abbrev Byte := BitVec 8

/-- A string in front of its null character. -/
abbrev Text := List Byte

/-- The byte of an ASCII character. -/
def byte (letter : Char) : Byte :=
  .ofNat 8 letter.toNat

/-- The characters of a literal. -/
def bytes (letters : List Char) : Text :=
  letters.map byte

/-! ## XMLUtil -/

/-- `IsUTF8Continuation`, true of every byte of a character of several. -/
def isUTF8Continuation (p : Byte) : Bool :=
  p &&& 0x80 != 0

/-- `isspace` in the C locale. -/
def isspace (c : Byte) : Bool :=
  c == 0x20 || (0x09 ≤ c && c ≤ 0x0D)

/-- `isalpha` in the C locale. -/
def isalpha (c : Byte) : Bool :=
  (byte 'A' ≤ c && c ≤ byte 'Z') || (byte 'a' ≤ c && c ≤ byte 'z')

/-- `isalnum` in the C locale. -/
def isalnum (c : Byte) : Bool :=
  isalpha c || (byte '0' ≤ c && c ≤ byte '9')

/-- `IsAlphaNum`. -/
def isAlphaNum (anyByte : Byte) : Bool :=
  if anyByte < 128 then isalnum anyByte else true

/-- `IsAlpha`, which is false of an underscore. -/
def isAlpha (anyByte : Byte) : Bool :=
  if anyByte < 128 then isalpha anyByte else true

/-- What `SkipWhiteSpace` skips. -/
def isWhite (p : Byte) : Bool :=
  !isUTF8Continuation p && isspace p

/-- `SkipWhiteSpace`. -/
def skipWhiteSpace (p : Text) : Text :=
  p.dropWhile isWhite

/-- The comparison stops after `nChar` bytes. -/
def stringEqual : Text → Text → Nat → Bool
  | [], [], _ => true
  | a :: p, b :: q, nChar => nChar == 0 || (a == b && stringEqual p q (nChar - 1))
  | _, _, nChar => nChar == 0

/-- `INT_MAX`, the characters that `StringEqual` compares. -/
def intMax : Nat := 2 ^ 31 - 1

/-- The comparison without a count. -/
def sameString (p q : Text) : Bool :=
  stringEqual p q intMax

/-- The byte order mark. -/
def tixmlUtfLead : Text :=
  [0xEF, 0xBB, 0xBF]

/-- `ReadBOM`. -/
def readBOM (p : Text) : Bool × Text :=
  if tixmlUtfLead.isPrefixOf p then (true, p.drop 3) else (false, p)

/-! ## StrPair -/

/-- The flags that say how a string is changed when it is read. -/
structure Flags where
  needsEntityProcessing : Bool
  needsNewlineNormalization : Bool
  deriving DecidableEq

namespace Flags

/-- The flags of a name. -/
def none : Flags := ⟨false, false⟩

/-- `TEXT_ELEMENT`. -/
def textElement : Flags := ⟨true, true⟩

/-- `TEXT_ELEMENT_LEAVE_ENTITIES`. -/
def textElementLeaveEntities : Flags := ⟨false, true⟩

/-- `ATTRIBUTE_VALUE`. -/
def attributeValue : Flags := ⟨true, true⟩

/-- `ATTRIBUTE_VALUE_LEAVE_ENTITIES`. -/
def attributeValueLeaveEntities : Flags := ⟨false, true⟩

/-- `COMMENT`. -/
def comment : Flags := ⟨false, true⟩

/-- `NEEDS_NEWLINE_NORMALIZATION` alone. -/
def needsNewline : Flags := ⟨false, true⟩

end Flags

/-- A part of the string that is parsed: `start` sees `text ++ rest`, and `stop` sees
`rest`. -/
structure StrPair where
  text : Text
  rest : Text
  flags : Flags
  deriving DecidableEq

/-- `StrPair::ParseText`: up to the first end tag, and what is behind that. -/
def parseText (p endTag : Text) (flags : Flags) : Option (StrPair × Text) :=
  (cutAt endTag p).map fun parts => (⟨parts.1, endTag ++ parts.2, flags⟩, parts.2)

/-- What a name goes on with. -/
def isNameChar (p : Byte) : Bool :=
  isAlphaNum p || p == byte '_' || p == byte '-' || p == byte '.' || p == byte ':'

/-- `StrPair::ParseName`. -/
def parseName (p : Text) : Option (StrPair × Text) :=
  match p with
  | [] => none
  | first :: _ =>
      if !isAlpha first then
        none
      else
        let stop := p.dropWhile isNameChar
        some (⟨p.takeWhile isNameChar, stop, Flags.none⟩, stop)

/-! ## Facts about them -/

theorem stringEqual_iff (p q : Text) (nChar : Nat) :
    stringEqual p q nChar = true ↔ p.take nChar = q.take nChar := by
  induction p generalizing q nChar with
  | nil =>
      cases q with
      | nil => simp [stringEqual]
      | cons b q => cases nChar <;> simp [stringEqual]
  | cons a p ih =>
      cases q with
      | nil => cases nChar <;> simp [stringEqual]
      | cons b q => cases nChar <;> simp [stringEqual, ih]

@[simp]
theorem sameString_self (p : Text) : sameString p p = true :=
  (stringEqual_iff p p intMax).mpr rfl

/-- A comparison with a header looks whether the text begins with it. -/
theorem stringEqual_header (p header : Text) :
    stringEqual p header header.length = header.isPrefixOf p := by
  rw [Bool.eq_iff_iff, stringEqual_iff, List.take_length, List.isPrefixOf_iff_prefix,
    List.prefix_iff_eq_take, eq_comm]

/-- Letters are characters of names. -/
theorem isNameChar_of_isAlpha {c : Byte} (letter : isAlpha c = true) :
    isNameChar c = true := by
  revert c
  decide

/-- A name of an element or of an attribute. -/
structure IsName (name : Text) : Prop where
  begins : ∃ first rest, name = first :: rest ∧ isAlpha first = true
  chars : ∀ c ∈ name, isNameChar c = true

theorem isName_iff {name : Text} :
    IsName name ↔ name.head?.any isAlpha = true ∧ name.all isNameChar = true := by
  rw [List.all_eq_true]
  constructor
  · rintro ⟨⟨first, rest, rfl, letter⟩, chars⟩
    exact ⟨letter, chars⟩
  · rintro ⟨begins, chars⟩
    cases name with
    | nil => cases begins
    | cons first rest => exact ⟨⟨first, rest, rfl, begins⟩, chars⟩

instance (name : Text) : Decidable (IsName name) :=
  decidable_of_iff' _ isName_iff

theorem parseName_eq_some_iff {p rest : Text} {name : StrPair} :
    parseName p = some (name, rest) ↔
      p = name.text ++ rest ∧ IsName name.text ∧ EndsRun isNameChar rest ∧
        name = ⟨name.text, rest, Flags.none⟩ := by
  constructor
  · intro parsed
    cases p with
    | nil => cases parsed
    | cons first others =>
        by_cases letter : isAlpha first = true
        · simp only [parseName, letter, Bool.not_true, Bool.false_eq_true, if_false,
            Option.some.injEq, Prod.mk.injEq] at parsed
          obtain ⟨rfl, rfl⟩ := parsed
          refine ⟨List.takeWhile_append_dropWhile.symm,
            ⟨⟨first, others.takeWhile isNameChar, ?_, letter⟩,
              fun c => List.mem_takeWhile_imp⟩, endsRun_dropWhile _ _, rfl⟩
          exact List.takeWhile_cons_of_pos (isNameChar_of_isAlpha letter)
        · simp [parseName, letter] at parsed
  · rintro ⟨rfl, ⟨⟨first, others, begins, letter⟩, chars⟩, ends, same⟩
    have run := takeWhile_append_of_run chars ends
    have behind := dropWhile_append_of_run chars ends
    rw [same]
    rw [begins] at run behind ⊢
    simp only [List.cons_append] at run behind ⊢
    simp [parseName, letter, run, behind]

theorem parseText_eq_some_iff {p endTag rest : Text} {flags : Flags} {value : StrPair}
    (fresh : EndsFresh endTag) :
    parseText p endTag flags = some (value, rest) ↔
      p = value.text ++ endTag ++ rest ∧ ¬ endTag <:+: value.text ∧
        value = ⟨value.text, endTag ++ rest, flags⟩ := by
  rw [parseText, Option.map_eq_some_iff]
  constructor
  · rintro ⟨⟨front, behind⟩, found, same⟩
    cases same
    exact ⟨append_of_cutAt found, not_infix_of_cutAt fresh.ne_nil found, rfl⟩
  · rintro ⟨rfl, clean, same⟩
    exact ⟨(value.text, rest), cutAt_append fresh clean rest, by rw [same]⟩

/-- Blanks that are skipped. -/
def Blank (text : Text) : Prop :=
  ∀ c ∈ text, isWhite c = true

instance (text : Text) : Decidable (Blank text) :=
  inferInstanceAs (Decidable (∀ c ∈ text, isWhite c = true))

theorem blank_nil : Blank [] :=
  fun _ member => absurd member List.not_mem_nil

theorem Blank.append {first second : Text} (blank : Blank first) (blank' : Blank second) :
    Blank (first ++ second) := by
  intro c member
  rcases List.mem_append.mp member with inFirst | inSecond
  · exact blank c inFirst
  · exact blank' c inSecond

/-- Blanks are skipped up to the first byte that is none. -/
theorem skipWhiteSpace_append {blanks rest : Text} (blank : Blank blanks)
    (ends : EndsRun isWhite rest) : skipWhiteSpace (blanks ++ rest) = rest :=
  dropWhile_append_of_run blank ends

theorem skipWhiteSpace_cons {blanks : Text} (blank : Blank blanks) {first : Byte}
    (other : isWhite first = false) (rest : Text) :
    skipWhiteSpace (blanks ++ first :: rest) = first :: rest := by
  refine skipWhiteSpace_append blank fun c member => ?_
  cases member
  exact other

theorem parseName_append {name rest : Text} (isName : IsName name)
    (ends : EndsRun isNameChar rest) :
    parseName (name ++ rest) = some (⟨name, rest, Flags.none⟩, rest) :=
  parseName_eq_some_iff.mpr ⟨rfl, isName, ends, rfl⟩

theorem parseText_append {endTag value : Text} (fresh : EndsFresh endTag)
    (clean : ¬ endTag <:+: value) (flags : Flags) (rest : Text) :
    parseText (value ++ (endTag ++ rest)) endTag flags =
      some (⟨value, endTag ++ rest, flags⟩, rest) :=
  (parseText_eq_some_iff fresh).mpr ⟨(List.append_assoc _ _ _).symm, clean, rfl⟩

theorem endsRun_cons {kind : Byte → Bool} {first : Byte} {rest : Text}
    (other : kind first = false) : EndsRun kind (first :: rest) := by
  intro c member
  cases member
  exact other

theorem exists_blank_append (p : Text) :
    ∃ blanks, Blank blanks ∧ p = blanks ++ skipWhiteSpace p ∧
      EndsRun isWhite (skipWhiteSpace p) :=
  ⟨p.takeWhile isWhite, fun _ member => List.mem_takeWhile_imp member,
    List.takeWhile_append_dropWhile.symm, endsRun_dropWhile _ _⟩

theorem skipWhiteSpace_eq_nil_iff {p : Text} : skipWhiteSpace p = [] ↔ Blank p :=
  List.dropWhile_eq_nil_iff

end SandPlatform.Xml
