import SandPlatform.Xml.InPlace
import SandPlatform.Xml.Printer

/-!
# Strings that are printed are read back

A text spells a value if every piece of it stores its part of the value.  What
`PrintString` prints spells the string, as long as there is no carriage return in it.
-/

namespace SandPlatform.Xml

/-! ## Spelling -/

/-- Every byte of the value is stored. -/
def Spells (flags : Flags) (text value : Text) : Prop :=
  ∃ parts : List Text, pieces flags text.length text = some (parts.map some) ∧
    parts.flatten = value

section Spells

variable {flags : Flags} {text value : Text}

theorem Spells.nil (flags : Flags) : Spells flags [] [] :=
  ⟨[], rfl, rfl⟩

theorem Spells.cons {c : Byte} {next behind stored : Text}
    (read : piece flags c next = some (some stored, behind)) (spells : Spells flags behind value) :
    Spells flags (c :: next) (stored ++ value) := by
  rcases spells with ⟨parts, whole, rfl⟩
  refine ⟨stored :: parts, ?_, rfl⟩
  rw [List.length_cons, pieces, read]
  simp only
  rw [pieces_of_le (length_piece_behind read), whole]
  rfl

theorem leftOut_map_some (q : Nat) (parts : List Text) : leftOut q (parts.map some) = [] := by
  induction parts generalizing q with
  | nil => rfl
  | cons part parts ih => exact ih _

/-- A value that is spelled is in its place. -/
theorem Spells.valueInPlace (spells : Spells flags text value) :
    valueInPlace flags text = some value := by
  rcases spells with ⟨parts, whole, rfl⟩
  rw [Xml.valueInPlace, whole, Option.map_some,
    (written_eq_iff text 0 _).mpr (by simp [leftOut_map_some])]
  simp [Function.comp_def]

theorem Spells.decode (spells : Spells flags text value) : decode flags text = some value := by
  rcases spells with ⟨parts, whole, rfl⟩
  rw [Xml.decode, whole]
  simp [Function.comp_def]

end Spells

/-! ## Escaping -/

/-- What is printed for one byte. -/
def escapeByte (flag : Byte → Bool) (q : Byte) : Text :=
  if 0 < q ∧ q < entityRange ∧ flag q then printEntity q else [q]

theorem printRuns_eq (flag : Byte → Bool) (run text : Text) :
    printRuns flag run text = run ++ text.flatMap (escapeByte flag) := by
  induction text generalizing run with
  | nil => simp [printRuns]
  | cons q rest ih =>
      rw [printRuns, List.flatMap_cons, escapeByte]
      split_ifs
      · rw [ih, List.nil_append, List.append_assoc]
      · rw [ih, List.append_assoc]

/-- The bytes that are printed as an entity. -/
def isEntity (c : Byte) : Bool :=
  entities.any fun e => e.value == c

/-- The flags of a printer: they are of entities, and an ampersand has one. -/
structure EntityFlags (flag : Byte → Bool) : Prop where
  ampersand : flag (byte '&') = true
  entity : ∀ c, flag c = true → isEntity c = true

theorem entityFlags_entityFlag : EntityFlags entityFlag :=
  ⟨by decide, by decide⟩

theorem entityFlags_restricted : EntityFlags restrictedEntityFlag :=
  ⟨by decide, by decide⟩

theorem isEntity_range : ∀ c, isEntity c = true → 0 < c ∧ c < entityRange := by
  decide

variable {flag : Byte → Bool}

theorem escapeByte_of_flag (flags : EntityFlags flag) {q : Byte} (flagged : flag q = true) :
    escapeByte flag q = printEntity q := by
  rcases isEntity_range q (flags.entity q flagged) with ⟨positive, small⟩
  exact if_pos ⟨positive, small, flagged⟩

theorem escapeByte_of_not_flag {q : Byte} (plain : flag q = false) :
    escapeByte flag q = [q] :=
  if_neg (by simp [plain])

/-- An entity that is printed is the entity that is read. -/
theorem printEntity_eq {q : Byte} (isEntity : isEntity q = true) :
    ∃ e ∈ entities, e.value = q ∧ printEntity q = byte '&' :: (e.pattern ++ [byte ';']) := by
  have every : ∀ q, Xml.isEntity q = true → ∃ e ∈ entities, e.value = q ∧
      printEntity q = byte '&' :: (e.pattern ++ [byte ';']) := by decide
  exact every q isEntity

theorem findEntity_append {e : Entity} (listed : e ∈ entities) (rest : Text) :
    findEntity (e.pattern ++ byte ';' :: rest) = some e := by
  simp only [entities, List.mem_cons, List.not_mem_nil, or_false] at listed
  rcases listed with rfl | rfl | rfl | rfl | rfl <;> rfl

theorem piece_entity {flags : Flags} (entity : flags.needsEntityProcessing = true) {e : Entity}
    (listed : e ∈ entities) (rest : Text) :
    piece flags (byte '&') (e.pattern ++ byte ';' :: rest) = some (some [e.value], rest) := by
  have noHash : (e.pattern ++ byte ';' :: rest)[0]? ≠ some (byte '#') := by
    simp only [entities, List.mem_cons, List.not_mem_nil, or_false] at listed
    rcases listed with rfl | rfl | rfl | rfl | rfl <;> simp [bytes, byte]
  have behind : (e.pattern ++ byte ';' :: rest).drop (e.length + 1) = rest := by
    rw [entities_length e listed, ← List.drop_drop, List.drop_left]
    rfl
  unfold piece
  rw [if_neg (fun both => absurd both.2 (by decide)),
    if_neg (fun both => absurd both.2 (by decide)), if_pos ⟨entity, rfl⟩, if_neg noHash,
    findEntity_append listed]
  simp only
  rw [behind]

/-- The first byte of what is printed is no carriage return. -/
theorem escape_no_return {text : Text} (noReturn : carriageReturn ∉ text) :
    carriageReturn ∉ text.flatMap (escapeByte flag) := by
  have entity : ∀ q, carriageReturn ∉ printEntity q := by decide
  rw [List.mem_flatMap]
  rintro ⟨q, member, inEscape⟩
  unfold escapeByte at inEscape
  split_ifs at inEscape
  · exact entity q inEscape
  · rw [List.mem_singleton] at inEscape
    exact noReturn (inEscape ▸ member)

theorem skipOver_of_no_return {next : Text} (noReturn : carriageReturn ∉ next) :
    skipOver carriageReturn next = next := by
  refine if_neg fun first => noReturn ?_
  exact List.mem_of_getElem? first

/-- A byte that is no carriage return and begins no reference spells itself. -/
theorem piece_self {flags : Flags} {c : Byte} {next : Text} (notReturn : c ≠ carriageReturn)
    (noReturn : carriageReturn ∉ next)
    (noReference : flags.needsEntityProcessing = true → c ≠ byte '&') :
    piece flags c next = some (some [c], next) := by
  by_cases feed : c = lineFeed
  · unfold piece
    subst feed
    by_cases normalized : flags.needsNewlineNormalization = true
    · rw [if_neg (fun both => notReturn both.2), if_pos ⟨normalized, rfl⟩,
        skipOver_of_no_return noReturn]
    · rw [if_neg (fun both => notReturn both.2), if_neg (fun both => normalized both.1),
        if_neg (fun both => absurd both.2 (by decide))]
  · exact piece_plain (fun _ => ⟨notReturn, feed⟩) noReference next

/-- What is printed with entities spells the string. -/
theorem spells_printRuns {flags : Flags} (entity : flags.needsEntityProcessing = true)
    (entityFlags : EntityFlags flag) {text : Text} (noReturn : carriageReturn ∉ text) :
    Spells flags (printRuns flag [] text) text := by
  rw [printRuns_eq, List.nil_append]
  induction text with
  | nil => exact .nil flags
  | cons q rest ih =>
      rw [List.mem_cons, not_or] at noReturn
      have spells := ih noReturn.2
      rw [List.flatMap_cons]
      by_cases flagged : flag q = true
      · rcases printEntity_eq (entityFlags.entity q flagged) with ⟨e, listed, rfl, printed⟩
        rw [escapeByte_of_flag entityFlags flagged, printed]
        have read := piece_entity entity listed (rest.flatMap (escapeByte flag))
        have whole := Spells.cons read spells
        simpa using whole
      · rw [Bool.not_eq_true] at flagged
        rw [escapeByte_of_not_flag flagged]
        refine Spells.cons (piece_self (Ne.symm noReturn.1) (escape_no_return noReturn.2) ?_)
          spells
        rintro _ rfl
        rw [entityFlags.ampersand] at flagged
        cases flagged

/-- Without entities a string spells itself. -/
theorem spells_self {flags : Flags} (noEntity : flags.needsEntityProcessing = false)
    {text : Text} (noReturn : carriageReturn ∉ text) : Spells flags text text := by
  induction text with
  | nil => exact .nil flags
  | cons c next ih =>
      rw [List.mem_cons, not_or] at noReturn
      exact Spells.cons (piece_self (Ne.symm noReturn.1) noReturn.2 (by simp [noEntity]))
        (ih noReturn.2)

/-! ## What is not printed -/

/-- A byte with a flag is not printed. -/
theorem not_mem_printRuns (entityFlags : EntityFlags flag) {c : Byte} (flagged : flag c = true)
    (notAmpersand : c ≠ byte '&') (text : Text) : c ∉ printRuns flag [] text := by
  have entity : ∀ e ∈ entities, ∀ x ∈ e.pattern ++ [byte ';'], isEntity x = false := by decide
  rw [printRuns_eq, List.nil_append, List.mem_flatMap]
  rintro ⟨q, _, inEscape⟩
  by_cases flagged' : flag q = true
  · rcases printEntity_eq (entityFlags.entity q flagged') with ⟨e, listed, _, printed⟩
    rw [escapeByte_of_flag entityFlags flagged', printed, List.mem_cons] at inEscape
    rcases inEscape with ampersand | inPattern
    · exact notAmpersand ampersand
    · have noEntity := entity e listed c inPattern
      rw [entityFlags.entity c flagged] at noEntity
      cases noEntity
  · rw [Bool.not_eq_true] at flagged'
    rw [escapeByte_of_not_flag flagged', List.mem_singleton] at inEscape
    rw [inEscape, flagged'] at flagged
    cases flagged

/-- What is printed for a string that shows something shows something. -/
theorem printRuns_shown (entityFlags : EntityFlags flag) {text : Text} (shown : ¬ Blank text) :
    ¬ Blank (printRuns flag [] text) := by
  rw [printRuns_eq, List.nil_append]
  intro blank
  refine shown fun q member => ?_
  by_cases flagged : flag q = true
  · rcases printEntity_eq (entityFlags.entity q flagged) with ⟨e, _, _, printed⟩
    have first : byte '&' ∈ text.flatMap (escapeByte flag) := by
      rw [List.mem_flatMap]
      refine ⟨q, member, ?_⟩
      rw [escapeByte_of_flag entityFlags flagged, printed]
      exact List.mem_cons_self
    exact absurd (blank _ first) (by decide)
  · rw [Bool.not_eq_true] at flagged
    refine blank q (List.mem_flatMap.mpr ⟨q, member, ?_⟩)
    rw [escapeByte_of_not_flag flagged]
    exact List.mem_cons_self

end SandPlatform.Xml
