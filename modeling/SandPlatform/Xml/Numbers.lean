import SandPlatform.Xml.Elements

/-!
# Numbers and booleans

Numbers are written by `snprintf` and read by `sscanf`.  What a number or a boolean is
written as is read as the same one, also from a document that was printed and parsed in
between.
-/

namespace SandPlatform.Xml

open SandPlatform.Foundation

universe u

/-! ## The formats -/

/-- `isdigit`. -/
def isdigit (c : Byte) : Bool :=
  byte '0' ≤ c && c ≤ byte '9'

/-- A number in decimal digits. -/
def decimal (n : Nat) : Text :=
  bytes (Nat.toDigits 10 n)

/-- What `%d` writes. -/
def formatInt (v : Int) : Text :=
  if v < 0 then byte '-' :: decimal v.natAbs else decimal v.natAbs

/-- The sign of a number, if there is one; true is a minus. -/
def scanSign : Text → Bool × Text
  | [] => (false, [])
  | c :: next =>
      if c = byte '-' then (true, next)
      else if c = byte '+' then (false, next)
      else (false, c :: next)

/-- The number that some digits are. -/
def digitsValue (digits : Text) : Nat :=
  digits.foldl (fun value c => 10 * value + (c.toNat - 48)) 0

/-- What `%d` and `%u` read: blanks, a sign and at least one digit. -/
def scanInt (str : Text) : Option Int :=
  let (negative, p) := scanSign (str.dropWhile isspace)
  let digits := p.takeWhile isdigit
  if digits = [] then
    none
  else
    some (if negative then -(digitsValue digits : Int) else digitsValue digits)

namespace XMLUtil

/-! ## XMLUtil -/

/-- `ToStr` of an `int`. -/
def toStrInt (v : BitVec 32) : Text :=
  formatInt v.toInt

/-- `ToStr` of an `unsigned`. -/
def toStrUnsigned (v : BitVec 32) : Text :=
  formatInt v.toNat

/-- `ToStr` of a `bool`, which writes a number. -/
def toStrBool (v : Bool) : Text :=
  formatInt (if v then 1 else 0)

/-- A number that does not fit is undefined in C; it wraps around here. -/
def toInt (str : Text) : Option (BitVec 32) :=
  (scanInt str).map (BitVec.ofInt 32)

/-- A negative number is the same bits. -/
def toUnsigned (str : Text) : Option (BitVec 32) :=
  (scanInt str).map (BitVec.ofInt 32)

/-- `ToBool`: a number, or else a word. -/
def toBool (str : Text) : Option Bool :=
  match toInt str with
  | some ival => some (ival != 0)
  | none =>
      if sameString str (bytes ['t', 'r', 'u', 'e']) then some true
      else if sameString str (bytes ['f', 'a', 'l', 's', 'e']) then some false
      else none

end XMLUtil

/-! ## Queries -/

/-- What the `Query` functions return, with the value. -/
inductive QueryResult (α : Type u)
  | noError (value : α)
  | noAttribute
  | wrongAttributeType
  | noTextNode
  | canNotConvertText
  deriving DecidableEq

namespace Element

variable {α : Type u}

/-- The overloads of `SetAttribute`, by how they write a value. -/
def setTyped (toStr : α → Text) (name : Text) (value : α) (element : Element) : Element :=
  element.setAttribute name (toStr value)

/-- The `Query` functions for an attribute. -/
def queryAttribute (convert : Text → Option α) (name : Text) (element : Element) :
    QueryResult α :=
  match element.findAttribute name with
  | none => .noAttribute
  | some a =>
      match convert a.value with
      | none => .wrongAttributeType
      | some value => .noError value

end Element

/-- `GetText`, from the children of an element. -/
def getText : Nodes Text → Option Text
  | .leaf node _ => if node.kind.isText then some node.value else none
  | _ => none

/-- The `Query` functions for the text of an element. -/
def queryText {α : Type u} (convert : Text → Option α) (children : Nodes Text) : QueryResult α :=
  match getText children with
  | none => .noTextNode
  | some t =>
      match convert t with
      | none => .canNotConvertText
      | some value => .noError value

/-! ## What is written is read -/

theorem byte_of_isDigit {c : Char} (digit : c.isDigit = true) :
    isdigit (byte c) = true ∧ (byte c).toNat = c.toNat := by
  have range : 48 ≤ c.toNat ∧ c.toNat ≤ 57 := by
    simpa [Char.isDigit, UInt32.le_iff_toNat_le] using digit
  have same : (byte c).toNat = c.toNat := by
    rw [byte, BitVec.toNat_ofNat]
    omega
  refine ⟨?_, same⟩
  have low : (byte '0').toNat = 48 := rfl
  have high : (byte '9').toNat = 57 := rfl
  simp only [isdigit, Bool.and_eq_true, decide_eq_true_iff, BitVec.le_def, same, low, high]
  exact range

theorem isdigit_decimal (n : Nat) : ∀ c ∈ decimal n, isdigit c = true := by
  intro c member
  rcases List.mem_map.mp member with ⟨letter, isDigit, rfl⟩
  exact (byte_of_isDigit
    (Nat.isDigit_of_mem_toDigits (by decide) (by decide) isDigit)).1

theorem digitsValue_decimal (n : Nat) : digitsValue (decimal n) = n := by
  have digits : ∀ c ∈ Nat.toDigits 10 n, c.isDigit = true := fun c member =>
    Nat.isDigit_of_mem_toDigits (by decide) (by decide) member
  have folds : ∀ (letters : List Char) (value : Nat), (∀ c ∈ letters, c.isDigit = true) →
      (bytes letters).foldl (fun value c => 10 * value + (c.toNat - 48)) value =
        Nat.ofDigitChars 10 letters value := by
    intro letters
    induction letters with
    | nil => exact fun _ _ => rfl
    | cons c letters ih =>
        intro value digits
        rw [List.forall_mem_cons] at digits
        rw [Nat.ofDigitChars_cons, ← ih _ digits.2, bytes, List.map_cons, List.foldl_cons,
          (byte_of_isDigit digits.1).2]
        rfl
  rw [digitsValue, decimal, folds _ _ digits, Nat.ofDigitChars_ten_toDigits]

theorem decimal_ne_nil (n : Nat) : decimal n ≠ [] := by
  simp [decimal, bytes]

/-- A digit is neither a blank nor a sign, nor is it changed in a document. -/
theorem plain_of_isdigit {c : Byte} (digit : isdigit c = true) :
    isspace c = false ∧ c ≠ byte '-' ∧ c ≠ byte '+' ∧ isWhite c = false ∧ c ≠ 0 ∧
      c ≠ carriageReturn ∧ c ≠ doubleQuote ∧ c ≠ byte '<' := by
  revert c
  decide

theorem scanInt_digits {digits : Text} (isDigit : ∀ c ∈ digits, isdigit c = true)
    (more : digits ≠ []) : scanInt digits = some (digitsValue digits) := by
  rcases List.exists_cons_of_ne_nil more with ⟨first, others, rfl⟩
  have plain := plain_of_isdigit (isDigit first List.mem_cons_self)
  have whole : (first :: others).takeWhile isdigit = first :: others :=
    List.takeWhile_eq_self_iff.mpr isDigit
  simp [scanInt, scanSign, plain.1, plain.2.1, plain.2.2.1, whole]

theorem scanInt_negative {digits : Text} (isDigit : ∀ c ∈ digits, isdigit c = true)
    (more : digits ≠ []) : scanInt (byte '-' :: digits) = some (-(digitsValue digits : Int)) := by
  have sign : isspace (byte '-') = false := by decide
  have whole : digits.takeWhile isdigit = digits := List.takeWhile_eq_self_iff.mpr isDigit
  simp [scanInt, scanSign, sign, whole, more]

theorem scanInt_formatInt (v : Int) : scanInt (formatInt v) = some v := by
  unfold formatInt
  split_ifs with negative
  · rw [scanInt_negative (isdigit_decimal _) (decimal_ne_nil _), digitsValue_decimal]
    exact congrArg some (by omega)
  · rw [scanInt_digits (isdigit_decimal _) (decimal_ne_nil _), digitsValue_decimal]
    exact congrArg some (by omega)

/-- How values of a type are written and read. -/
structure Conversion (α : Type u) where
  toStr : α → Text
  convert : Text → Option α
  back : ∀ value, convert (toStr value) = some value
  formatted : ∀ value, ∃ v, toStr value = formatInt v

namespace XMLUtil

/-- `ToStr` and `ToInt`. -/
def int : Conversion (BitVec 32) where
  toStr := toStrInt
  convert := toInt
  back value := by simp [toStrInt, toInt, scanInt_formatInt]
  formatted value := ⟨value.toInt, rfl⟩

/-- `ToStr` and `ToUnsigned`. -/
def unsigned : Conversion (BitVec 32) where
  toStr := toStrUnsigned
  convert := toUnsigned
  back value := by simp [toStrUnsigned, toUnsigned, scanInt_formatInt]
  formatted value := ⟨value.toNat, rfl⟩

/-- `ToStr` and `ToBool`. -/
def bool : Conversion Bool where
  toStr := toStrBool
  convert := toBool
  back value := by cases value <;> simp [toStrBool, toBool, toInt, scanInt_formatInt]
  formatted value := ⟨if value then 1 else 0, rfl⟩

end XMLUtil

/-! ## Documents with numbers -/

theorem mem_formatInt {c : Byte} {v : Int} (member : c ∈ formatInt v) :
    c ≠ 0 ∧ c ≠ carriageReturn ∧ c ≠ doubleQuote ∧ c ≠ byte '<' ∧ isWhite c = false := by
  have digit : isdigit c = true → _ := fun digit => plain_of_isdigit digit
  unfold formatInt at member
  split_ifs at member with negative
  · rcases List.mem_cons.mp member with rfl | inside
    · decide
    · rcases digit (isdigit_decimal _ c inside) with ⟨_, _, _, white, null, ret, quote, bracket⟩
      exact ⟨null, ret, quote, bracket, white⟩
  · rcases digit (isdigit_decimal _ c member) with ⟨_, _, _, white, null, ret, quote, bracket⟩
    exact ⟨null, ret, quote, bracket, white⟩

theorem formatInt_ne_nil (v : Int) : formatInt v ≠ [] := by
  unfold formatInt
  split_ifs
  · simp
  · exact decimal_ne_nil _

theorem isString_formatInt (v : Int) : IsString (formatInt v) :=
  ⟨fun null => (mem_formatInt null).1 rfl, fun ret => (mem_formatInt ret).2.1 rfl⟩

theorem printableLeaf_formatInt (processEntities : Bool) (v : Int) :
    PrintableLeaf processEntities ⟨.text, formatInt v⟩ := by
  refine ⟨isString_formatInt v, fun _ blank => ?_, fun _ _ bracket =>
    (mem_formatInt bracket).2.2.2.1 rfl, fun markup => absurd rfl markup,
    fun unknown => (by cases unknown)⟩
  rcases List.exists_mem_of_ne_nil _ (formatInt_ne_nil v) with ⟨c, member⟩
  have white := blank c member
  rw [(mem_formatInt member).2.2.2.2] at white
  cases white

theorem mem_putAttribute {name value : Text} {attributes : List (Attribute Text)}
    {attrib : Attribute Text} (member : attrib ∈ putAttribute name value attributes) :
    attrib ∈ attributes ∨ attrib.value = value ∧
      (attrib.name = name ∨ ∃ old ∈ attributes, attrib.name = old.name) := by
  induction attributes with
  | nil =>
      rw [putAttribute, List.mem_singleton] at member
      subst member
      exact Or.inr ⟨rfl, Or.inl rfl⟩
  | cons first next ih =>
      rw [putAttribute] at member
      split_ifs at member with same
      · rcases List.mem_cons.mp member with rfl | further
        · exact Or.inr ⟨rfl, Or.inr ⟨first, List.mem_cons_self, rfl⟩⟩
        · exact Or.inl (List.mem_cons_of_mem _ further)
      · rcases List.mem_cons.mp member with rfl | further
        · exact Or.inl List.mem_cons_self
        · rcases ih further with old | ⟨isValue, isName | ⟨old, inside, isName⟩⟩
          · exact Or.inl (List.mem_cons_of_mem _ old)
          · exact Or.inr ⟨isValue, Or.inl isName⟩
          · exact Or.inr ⟨isValue, Or.inr ⟨old, List.mem_cons_of_mem _ inside, isName⟩⟩

theorem printable_put {processEntities : Bool} {name : Text}
    {attributes : List (Attribute Text)} (isName : IsName name)
    (printable : ∀ attrib ∈ attributes, PrintableAttribute processEntities attrib) (v : Int) :
    ∀ attrib ∈ putAttribute name (formatInt v) attributes,
      PrintableAttribute processEntities attrib := by
  intro attrib member
  rcases mem_putAttribute member with old | ⟨isValue, named⟩
  · exact printable attrib old
  · refine ⟨?_, ?_, fun _ => ?_⟩
    · rcases named with same | ⟨old, inside, same⟩
      · rwa [same]
      · rw [same]
        exact (printable old inside).isName
    · rw [isValue]
      exact isString_formatInt v
    · rw [isValue]
      exact fun quote => (mem_formatInt quote).2.2.1 rfl

theorem queryAttribute_set {α : Type u} (conversion : Conversion α) (name : Text) (value : α)
    (element : Element) :
    (element.setTyped conversion.toStr name value).queryAttribute conversion.convert name =
      .noError value := by
  have found := valueOf_put name (conversion.toStr value) name element.attributes
  rw [sameString_self, if_pos rfl, valueOf, Option.map_eq_some_iff] at found
  rcases found with ⟨a, isFound, isValue⟩
  rw [Element.queryAttribute, Element.setTyped, setAttribute_eq, Element.findAttribute, isFound]
  simp only [isValue, conversion.back]

/-- A document in which an attribute and a text are written by a conversion is printed and
parsed, and both are read as they were. -/
def Conversion.ReadBack {α : Type u} (conversion : Conversion α)
    (processEntities writeBOM hasBOM compact : Bool) (name attribName : Text)
    (attributes : List (Attribute Text)) (v w : α) : Prop :=
  ∃ (parsed : Nodes StrPair) (element : Element) (children : Nodes Text),
    parse processEntities writeBOM (printDocument processEntities hasBOM compact
      (.element name
        ((Element.mk name attributes).setTyped conversion.toStr attribName v).attributes
        (.leaf ⟨.text, conversion.toStr w⟩ .nil) .nil)) = some ⟨parsed, hasBOM, none⟩ ∧
    parsed.values = some (.element element.value element.attributes children .nil) ∧
    element.queryAttribute conversion.convert attribName = .noError v ∧
    queryText conversion.convert children = .noError w

/-- Typed attributes and texts outlive a print, among other attributes that do. -/
theorem parse_printDocument_typed {α : Type u} (conversion : Conversion α) (v w : α)
    {processEntities writeBOM hasBOM compact : Bool} {name attribName : Text}
    {attributes : List (Attribute Text)} (isName : IsName name) (isName' : IsName attribName)
    (printable : ∀ attrib ∈ attributes, PrintableAttribute processEntities attrib)
    (apart : NamesApart attributes) :
    conversion.ReadBack processEntities writeBOM hasBOM compact name attribName attributes
      v w := by
  rcases conversion.formatted v with ⟨v', isV⟩
  rcases conversion.formatted w with ⟨w', isW⟩
  have printable' : Printable processEntities (.element name
      ((Element.mk name attributes).setTyped conversion.toStr attribName v).attributes
      (.leaf ⟨.text, conversion.toStr w⟩ .nil) .nil) := by
    rw [Element.setTyped, setAttribute_eq, isV, isW]
    exact ⟨isName, printable_put isName' printable v', namesApart_iff.mp (apart.put _ _),
      ⟨printableLeaf_formatInt processEntities w', fun _ => rfl, trivial⟩, trivial⟩
  rcases printDocument_reads printable' rfl with
    ⟨parsed, t, blanks, print, reads, blank, values⟩
  refine ⟨parsed, (Element.mk name attributes).setTyped conversion.toStr attribName v,
    .leaf ⟨.text, conversion.toStr w⟩ .nil, ?_, ?_,
    queryAttribute_set conversion attribName v _, ?_⟩
  · rw [print]
    exact parse_of_reads reads blank values rfl (by simp)
  · rw [values, Element.setTyped, setAttribute_eq]
  · simp [queryText, getText, LeafKind.isText, conversion.back]

/-- The least and the greatest number and a boolean, beside another attribute. -/
theorem parse_printDocument_typed_least :
    XMLUtil.int.ReadBack true false false false (bytes ['a']) (bytes ['b'])
        [⟨bytes ['c'], bytes ['<']⟩] 0x80000000 7 ∧
      XMLUtil.unsigned.ReadBack true false false true (bytes ['a']) (bytes ['b'])
        [⟨bytes ['c'], bytes ['<']⟩] 0xFFFFFFFF 0 ∧
      XMLUtil.bool.ReadBack true true true false (bytes ['a']) (bytes ['c'])
        [⟨bytes ['c'], bytes ['<']⟩] true false := by
  have printable : ∀ attrib ∈ [(⟨bytes ['c'], bytes ['<']⟩ : Attribute Text)],
      PrintableAttribute true attrib := by
    intro attrib member
    rw [List.mem_singleton.mp member]
    exact ⟨by decide, ⟨by decide, by decide⟩, by decide⟩
  have apart : NamesApart [(⟨bytes ['c'], bytes ['<']⟩ : Attribute Text)] := by
    simp [NamesApart]
  exact ⟨parse_printDocument_typed _ _ _ (by decide) (by decide) printable apart,
    parse_printDocument_typed _ _ _ (by decide) (by decide) printable apart,
    parse_printDocument_typed _ _ _ (by decide) (by decide) printable apart⟩

end SandPlatform.Xml
