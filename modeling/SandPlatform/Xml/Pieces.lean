import SandPlatform.Xml.Reference

/-!
# The pieces of a text

`GetStr` goes through a text piece by piece: a line end, a reference, or a single byte.
What it stores for a piece depends on the text behind the pointer alone.  An ampersand
that begins no reference is not stored: the write pointer moves on over the byte that
is there.
-/

namespace SandPlatform.Xml

/-- `LINE_FEED`. -/
def lineFeed : Byte := 0x0A

/-- `CARRIAGE_RETURN`. -/
def carriageReturn : Byte := 0x0D

/-- `DOUBLE_QUOTE`. -/
def doubleQuote : Byte := 0x22

/-- `SINGLE_QUOTE`. -/
def singleQuote : Byte := 0x27

/-- An entity with its name, the length of that, and the character it stands for. -/
structure Entity where
  pattern : Text
  length : Nat
  value : Byte
  deriving DecidableEq

/-- The array `entities`. -/
def entities : List Entity :=
  [⟨bytes ['q', 'u', 'o', 't'], 4, doubleQuote⟩,
    ⟨bytes ['a', 'm', 'p'], 3, byte '&'⟩,
    ⟨bytes ['a', 'p', 'o', 's'], 4, singleQuote⟩,
    ⟨bytes ['l', 't'], 2, byte '<'⟩,
    ⟨bytes ['g', 't'], 2, byte '>'⟩]

/-- The entity that the text behind an ampersand names. -/
def findEntity (next : Text) : Option Entity :=
  entities.find? fun e => e.pattern.isPrefixOf next && next[e.length]? == some (byte ';')

/-- The pointer behind a byte goes over the other byte of a pair as well. -/
def skipOver (other : Byte) (next : Text) : Text :=
  if next[0]? = some other then next.drop 1 else next

/-- What is stored for the piece that begins with `c`, and the text behind it. -/
def piece (flags : Flags) (c : Byte) (next : Text) : Option (Option Text × Text) :=
  if flags.needsNewlineNormalization ∧ c = carriageReturn then
    some (some [lineFeed], skipOver lineFeed next)
  else if flags.needsNewlineNormalization ∧ c = lineFeed then
    some (some [lineFeed], skipOver carriageReturn next)
  else if flags.needsEntityProcessing ∧ c = byte '&' then
    if next[0]? = some (byte '#') then
      (getCharacterRef (c :: next)).map fun ref => (some ref.1, ref.2)
    else
      match findEntity next with
      | some e => some (some [e.value], next.drop (e.length + 1))
      | none => some (none, next)
  else
    some (some [c], next)

/-- As many pieces as the count says, or all of them. -/
def pieces (flags : Flags) : Nat → Text → Option (List (Option Text))
  | 0, _ => some []
  | _ + 1, [] => some []
  | count + 1, c :: next =>
      match piece flags c next with
      | none => none
      | some (stored, behind) => (pieces flags count behind).map (stored :: ·)

/-- The value of a text, in which an ampersand that begins no reference stands for
itself. -/
def decode (flags : Flags) (text : Text) : Option Text :=
  (pieces flags text.length text).map fun parts =>
    (parts.map fun stored => stored.getD [byte '&']).flatten

/-! ## A piece -/

theorem entities_length : ∀ e ∈ entities, e.length = e.pattern.length := by
  decide

theorem findEntity_eq_some {next : Text} {e : Entity} (found : findEntity next = some e) :
    e ∈ entities ∧ ∃ behind, next = e.pattern ++ byte ';' :: behind ∧
      next.drop (e.length + 1) = behind := by
  have listed := List.mem_of_find?_eq_some found
  have holds := List.find?_some found
  simp only [Bool.and_eq_true, beq_iff_eq, List.isPrefixOf_iff_prefix] at holds
  rcases holds with ⟨⟨after, rfl⟩, semicolon⟩
  have length : e.length = e.pattern.length := entities_length e listed
  rw [length, List.getElem?_append_right (Nat.le_refl _), Nat.sub_self] at semicolon
  cases after with
  | nil => cases semicolon
  | cons first behind =>
      cases semicolon
      refine ⟨listed, behind, rfl, ?_⟩
      rw [length, ← List.drop_drop, List.drop_left]
      rfl

/-- What is behind a piece is behind its first byte, and there is room for what is
stored. -/
theorem piece_behind {flags : Flags} {c : Byte} {next behind : Text} {stored : Option Text}
    (read : piece flags c next = some (stored, behind)) :
    ∃ taken, next = taken ++ behind ∧
      ∀ value, stored = some value → value.length ≤ taken.length + 1 := by
  have skipped (other : Byte) : ∃ taken, next = taken ++ skipOver other next := by
    unfold skipOver
    split_ifs
    · exact ⟨next.take 1, (List.take_append_drop 1 next).symm⟩
    · exact ⟨[], rfl⟩
  unfold piece at read
  split_ifs at read
  · cases read
    rcases skipped lineFeed with ⟨taken, same⟩
    exact ⟨taken, same, by simp⟩
  · cases read
    rcases skipped carriageReturn with ⟨taken, same⟩
    exact ⟨taken, same, by simp⟩
  · rcases Option.map_eq_some_iff.mp read with ⟨ref, found, same⟩
    cases same
    rcases length_of_getCharacterRef found with ⟨taken, same, room⟩
    exact ⟨taken, same, by simpa using room⟩
  · cases found : findEntity next with
    | none =>
        rw [found] at read
        cases read
        exact ⟨[], rfl, by simp⟩
    | some e =>
        rw [found] at read
        cases read
        exact ⟨next.take (e.length + 1), (List.take_append_drop _ _).symm, by simp⟩
  · cases read
    exact ⟨[], rfl, by simp⟩

theorem length_piece_behind {flags : Flags} {c : Byte} {next behind : Text}
    {stored : Option Text} (read : piece flags c next = some (stored, behind)) :
    behind.length ≤ next.length := by
  rcases piece_behind read with ⟨taken, rfl, _⟩
  simp

/-- A byte that begins neither a line end nor a reference stands for itself. -/
theorem piece_plain {flags : Flags} {c : Byte}
    (noLineEnd : flags.needsNewlineNormalization = true → c ≠ carriageReturn ∧ c ≠ lineFeed)
    (noReference : flags.needsEntityProcessing = true → c ≠ byte '&') (next : Text) :
    piece flags c next = some (some [c], next) := by
  unfold piece
  rw [if_neg fun both => (noLineEnd both.1).1 both.2,
    if_neg fun both => (noLineEnd both.1).2 both.2,
    if_neg fun both => noReference both.1 both.2]

/-! ## All pieces -/

/-- A count that is large enough does not matter. -/
theorem pieces_of_le {flags : Flags} {count : Nat} {text : Text}
    (enough : text.length ≤ count) : pieces flags count text = pieces flags text.length text := by
  induction count using Nat.strong_induction_on generalizing text with
  | h count ih =>
      match count, text, enough with
      | 0, [], _ => rfl
      | count + 1, [], _ => rfl
      | count + 1, c :: next, enough =>
          rw [List.length_cons] at enough ⊢
          rw [pieces, pieces]
          cases read : piece flags c next with
          | none => rfl
          | some part =>
              rcases part with ⟨stored, behind⟩
              have shorter := length_piece_behind read
              simp only
              rw [ih count (by omega) (by omega)]
              by_cases same : next.length = count
              · rw [same, ih count (by omega) (by omega)]
              · rw [ih next.length (by omega) shorter]

theorem decode_cons {flags : Flags} {c : Byte} {next behind : Text} {stored : Option Text}
    (read : piece flags c next = some (stored, behind)) :
    decode flags (c :: next) = (decode flags behind).map (stored.getD [byte '&'] ++ ·) := by
  rw [decode, decode, List.length_cons, pieces, read]
  simp only
  rw [pieces_of_le (length_piece_behind read), Option.map_map, Option.map_map]
  rfl

/-- Without flags a text is its own value. -/
@[simp]
theorem decode_none (text : Text) : decode Flags.none text = some text := by
  induction text with
  | nil => rfl
  | cons c next ih =>
      have plain : piece Flags.none c next = some (some [c], next) :=
        piece_plain (by simp [Flags.none]) (by simp [Flags.none]) next
      rw [decode_cons plain, ih]
      rfl

end SandPlatform.Xml
