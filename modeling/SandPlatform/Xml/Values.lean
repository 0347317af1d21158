import SandPlatform.Xml.Acceptance
import SandPlatform.Xml.InPlace

/-!
# The values of a document

The strings of the nodes are parts of the text that was parsed, one behind the other and
with a byte between them.  They are changed in place when they are first read, which may
be in any order: no string touches what another one is read from.
-/

namespace SandPlatform.Xml

open SandPlatform.Foundation

/-! ## The values of nodes -/

/-- `Value`, with what is in the place of the string afterwards. -/
def StrPair.value (pair : StrPair) : Option Text :=
  valueInPlace pair.flags pair.text

/-- The values of attributes, if all of them have one. -/
def attributeValues : List (Attribute StrPair) → Option (List (Attribute Text))
  | [] => some []
  | attrib :: others => do
      let name ← attrib.name.value
      let value ← attrib.value.value
      let values ← attributeValues others
      some (⟨name, value⟩ :: values)

/-- The values of nodes, if all of them have one. -/
def Nodes.values : Nodes StrPair → Option (Nodes Text)
  | nil => some nil
  | leaf node next => do
      let value ← node.value.value
      let values ← next.values
      some (leaf ⟨node.kind, value⟩ values)
  | element name attributes firstChild next => do
      let name ← name.value
      let attributes ← attributeValues attributes
      let children ← firstChild.values
      let values ← next.values
      some (element name attributes children values)

/-! ## The strings of nodes -/

/-- The strings of attributes, in the order of the text. -/
def attributePairs (attributes : List (Attribute StrPair)) : List StrPair :=
  attributes.flatMap fun attrib => [attrib.name, attrib.value]

/-- The strings of nodes, in the order of the text. -/
def Nodes.pairs : Nodes StrPair → List StrPair
  | nil => []
  | leaf node next => node.value :: next.pairs
  | element name attributes firstChild next =>
      name :: (attributePairs attributes ++ (firstChild.pairs ++ next.pairs))

/-- The first string and the byte behind it are in front of the second one. -/
def Before (a b : StrPair) : Prop :=
  b.start.length < a.rest.length

/-- Strings in the text between two pointers. -/
structure Between (p rest : Text) (pairs : List StrPair) : Prop where
  ordered : pairs.Pairwise Before
  starts : ∀ a ∈ pairs, a.start <:+ p
  stops : ∀ a ∈ pairs, rest.length < a.rest.length

variable {p mid rest : Text} {pairs others : List StrPair}

theorem between_nil (p rest : Text) : Between p rest [] :=
  ⟨.nil, by simp, by simp⟩

theorem between_singleton {pair : StrPair} (start : pair.start <:+ p)
    (stop : rest.length < pair.rest.length) : Between p rest [pair] :=
  ⟨List.pairwise_singleton _ _, by simpa using start, by simpa using stop⟩

theorem Between.append (first : Between p mid pairs) (second : Between mid rest others)
    (behind : mid <:+ p) (forward : rest.length ≤ mid.length) :
    Between p rest (pairs ++ others) := by
  refine ⟨List.pairwise_append.mpr ⟨first.ordered, second.ordered, ?_⟩, ?_, ?_⟩
  · intro a inFirst b inSecond
    have stop := first.stops a inFirst
    have start := (second.starts b inSecond).length_le
    exact Nat.lt_of_le_of_lt start stop
  · intro a member
    rcases List.mem_append.mp member with inFirst | inSecond
    · exact first.starts a inFirst
    · exact (second.starts a inSecond).trans behind
  · intro a member
    rcases List.mem_append.mp member with inFirst | inSecond
    · exact Nat.lt_of_le_of_lt forward (first.stops a inFirst)
    · exact second.stops a inSecond

theorem Between.behind {q : Text} (between : Between p rest pairs) (behind : p <:+ q) :
    Between q rest pairs :=
  ⟨between.ordered, fun a member => (between.starts a member).trans behind, between.stops⟩

/-! ## The strings of tags -/

variable {processEntities : Bool}

theorem ReadsAttribute.between {attrib : Attribute StrPair}
    (reads : ReadsAttribute processEntities p attrib rest) :
    Between p rest [attrib.name, attrib.value] ∧ rest <:+ p := by
  cases reads with
  | @mk name blanks blanks' value rest quote isName blank blank' isQuote clean =>
      have inside : (value ++ quote :: rest) <:+
          name ++ (blanks ++ byte '=' :: (blanks' ++ quote :: (value ++ quote :: rest))) :=
        ⟨name ++ (blanks ++ byte '=' :: (blanks' ++ [quote])), by simp⟩
      refine ⟨⟨?_, ?_, ?_⟩, ⟨name ++ (blanks ++ byte '=' ::
        (blanks' ++ quote :: (value ++ [quote]))), by simp⟩⟩
      · refine List.pairwise_pair.mpr ?_
        simp only [Before, StrPair.start, List.length_append, List.length_cons]
        omega
      · intro a member
        rcases List.mem_cons.mp member with rfl | member
        · exact List.suffix_refl _
        · rw [List.mem_singleton.mp member]
          exact inside
      · intro a member
        rcases List.mem_cons.mp member with rfl | member
        · simp only [List.length_append, List.length_cons]
          omega
        · rw [List.mem_singleton.mp member]
          simp

theorem ReadsAttributes.between {attributes : List (Attribute StrPair)}
    (reads : ReadsAttributes processEntities p attributes rest) :
    Between p rest (attributePairs attributes) ∧ rest <:+ p := by
  induction reads with
  | nil p => exact ⟨between_nil p p, List.suffix_refl p⟩
  | cons blank first reads ih =>
      rcases first.between with ⟨between, behind⟩
      have whole := between.append ih.1 behind reads.length_le
      exact ⟨whole.behind (List.suffix_append _ _),
        (ih.2.trans behind).trans (List.suffix_append _ _)⟩

theorem ReadsEnd.behind {closed : Bool} (reads : ReadsEnd p closed rest) : rest <:+ p := by
  cases reads with
  | @closed blanks _ blank => exact ⟨blanks ++ [byte '/', byte '>'], by simp⟩
  | @plain blanks _ blank => exact ⟨blanks ++ [byte '>'], by simp⟩

/-- There is a byte between the name of an element and its first attribute, also in a tag
whose end is missing. -/
theorem ReadsAttributes.between_name {name q : Text} {attributes : List (Attribute StrPair)}
    (reads : ReadsAttributes processEntities q attributes rest)
    (ends : EndsRun isNameChar q) (named : name ++ q <:+ p) :
    (⟨name, q, Flags.none⟩ :: attributePairs attributes).Pairwise Before ∧
      ∀ a ∈ (⟨name, q, Flags.none⟩ :: attributePairs attributes : List StrPair), a.start <:+ p := by
  have behind : q <:+ p := (List.suffix_append _ _).trans named
  cases reads with
  | nil => exact ⟨List.pairwise_singleton _ _, by simpa [attributePairs, StrPair.start] using named⟩
  | @cons blanks p' _ _ attrib others blank first reads =>
      rcases first.between with ⟨between, behindFirst⟩
      have further := between.append reads.between.1 behindFirst reads.length_le
      have shorter : p'.length < (blanks ++ p').length := by
        cases blanks with
        | nil =>
            rcases first.begins with ⟨letter, _, rfl, isLetter⟩
            have isName := ends letter rfl
            rw [isNameChar_of_isAlpha isLetter] at isName
            cases isName
        | cons white blanks =>
            simp only [List.length_append, List.length_cons]
            omega
      have one : Between p p' [⟨name, blanks ++ p', Flags.none⟩] :=
        between_singleton named shorter
      have last : rest.length ≤ p'.length :=
        Nat.le_trans reads.length_le (Nat.le_of_lt first.length_lt)
      have whole := one.append further ((List.suffix_append _ _).trans behind) last
      exact ⟨whole.ordered, whole.starts⟩

theorem ReadsTag.between {name : StrPair} {attributes : List (Attribute StrPair)}
    {closingType : ClosingType}
    (reads : ReadsTag processEntities p name attributes closingType rest) :
    Between p rest (name :: attributePairs attributes) ∧ rest <:+ p := by
  cases reads with
  | @mk blanks name q q' rest attributes closing closed blank isName ends reads distinct
      readsEnd =>
      have named : name ++ q <:+ blanks ++ (slash closing ++ (name ++ q)) :=
        (List.suffix_append _ _).trans (List.suffix_append _ _)
      rcases reads.between with ⟨between, behind⟩
      rcases reads.between_name ends named with ⟨ordered, starts⟩
      have ended := readsEnd.length_lt
      refine ⟨⟨ordered, starts, ?_⟩,
        readsEnd.behind.trans (behind.trans ((List.suffix_append _ _).trans named))⟩
      intro a member
      rcases List.mem_cons.mp member with rfl | inAttributes
      · exact Nat.lt_of_lt_of_le ended behind.length_le
      · exact Nat.lt_trans ended (between.stops a inAttributes)

/-! ## The strings of nodes are apart -/

/-- Strings behind a pointer, of which any two have a byte between them. -/
structure Spread (p : Text) (pairs : List StrPair) : Prop where
  apart : ∀ a ∈ pairs, ∀ b ∈ pairs, a ≠ b → Before a b ∨ Before b a
  starts : ∀ a ∈ pairs, a.start <:+ p ∧ (p.head? = some (byte '<') → a.start.length < p.length)

/-- Strings of nodes between two pointers.  A text ends at the bracket of the next node,
which is in no string. -/
structure Inside (p rest : Text) (pairs : List StrPair) : Prop extends Spread p pairs where
  stops : ∀ a ∈ pairs, rest.length < a.rest.length ∨
    rest.length = a.rest.length ∧ rest.head? = some (byte '<')

theorem Spread.subset (spread : Spread p pairs) (sub : others ⊆ pairs) : Spread p others :=
  ⟨fun a member b member' => spread.apart a (sub member) b (sub member'),
    fun a member => spread.starts a (sub member)⟩

theorem Inside.subset (inside : Inside p rest pairs) (sub : others ⊆ pairs) :
    Inside p rest others :=
  ⟨inside.toSpread.subset sub, fun a member => inside.stops a (sub member)⟩

theorem before_or_before (ordered : pairs.Pairwise Before) {a b : StrPair} (inPairs : a ∈ pairs)
    (inPairs' : b ∈ pairs) (different : a ≠ b) : Before a b ∨ Before b a := by
  rcases List.mem_iff_getElem.mp inPairs with ⟨i, inside, rfl⟩
  rcases List.mem_iff_getElem.mp inPairs' with ⟨j, inside', rfl⟩
  have each := List.pairwise_iff_getElem.mp ordered
  rcases Nat.lt_trichotomy i j with before | same | behind
  · exact .inl (each i j inside inside' before)
  · subst same
    exact absurd rfl different
  · exact .inr (each j i inside' inside behind)

theorem Inside.spread_append (first : Inside p mid pairs) (second : Spread mid others)
    (behind : mid <:+ p) : Spread p (pairs ++ others) := by
  have across : ∀ a ∈ pairs, ∀ b ∈ others, Before a b := by
    intro a inFirst b inSecond
    rcases second.starts b inSecond with ⟨start, notFirst⟩
    rcases first.stops a inFirst with before | ⟨same, bracket⟩
    · exact Nat.lt_of_le_of_lt start.length_le before
    · have shorter := notFirst bracket
      unfold Before
      omega
  constructor
  · intro a member b member' different
    rcases List.mem_append.mp member with inFirst | inSecond
    · rcases List.mem_append.mp member' with inFirst' | inSecond'
      · exact first.apart a inFirst b inFirst' different
      · exact .inl (across a inFirst b inSecond')
    · rcases List.mem_append.mp member' with inFirst' | inSecond'
      · exact .inr (across b inFirst' a inSecond)
      · exact second.apart a inSecond b inSecond' different
  · intro a member
    rcases List.mem_append.mp member with inFirst | inSecond
    · exact first.starts a inFirst
    · rcases second.starts a inSecond with ⟨start, notFirst⟩
      refine ⟨start.trans behind, fun bracket => ?_⟩
      by_cases same : mid.length = p.length
      · have whole := behind.eq_of_length same
        subst whole
        exact notFirst bracket
      · have shorter := behind.length_le
        have shorter' := start.length_le
        omega

theorem Inside.append (first : Inside p mid pairs) (second : Inside mid rest others)
    (behind : mid <:+ p) (behind' : rest <:+ mid) : Inside p rest (pairs ++ others) := by
  refine ⟨first.spread_append second.toSpread behind, fun a member => ?_⟩
  rcases List.mem_append.mp member with inFirst | inSecond
  · have shorter := behind'.length_le
    rcases first.stops a inFirst with before | ⟨same, bracket⟩
    · exact .inl (by omega)
    · by_cases whole : rest.length = mid.length
      · have same' := behind'.eq_of_length whole
        subst same'
        exact .inr ⟨same, bracket⟩
      · exact .inl (by omega)
  · exact second.stops a inSecond

/-- Strings of a tag are behind its bracket. -/
theorem spread_of_ordered (blanks : Text) (first : Byte) (ordered : pairs.Pairwise Before)
    (starts : ∀ a ∈ pairs, a.start <:+ p) : Spread (blanks ++ first :: p) pairs := by
  refine ⟨fun a member b member' => before_or_before ordered member member', fun a member => ?_⟩
  have start := starts a member
  refine ⟨start.trans ⟨blanks ++ [first], by simp⟩, fun _ => ?_⟩
  have shorter := start.length_le
  rw [List.length_append, List.length_cons]
  omega

theorem inside_nil (p rest : Text) : Inside p rest [] :=
  ⟨⟨by simp, by simp⟩, by simp⟩

/-- A string alone. -/
theorem inside_singleton {pair : StrPair} (start : pair.start <:+ p)
    (notFirst : p.head? = some (byte '<') → pair.start.length < p.length)
    (stop : rest.length < pair.rest.length ∨
      rest.length = pair.rest.length ∧ rest.head? = some (byte '<')) : Inside p rest [pair] := by
  refine ⟨⟨fun a member b member' different => ?_, ?_⟩, by simpa using stop⟩
  · rw [List.mem_singleton.mp member, List.mem_singleton.mp member'] at different
    exact absurd rfl different
  · simpa using ⟨start, notFirst⟩

theorem Between.inside (blanks : Text) (first : Byte) (between : Between p rest pairs) :
    Inside (blanks ++ first :: p) rest pairs := by
  refine ⟨spread_of_ordered blanks first between.ordered between.starts,
    fun a member => .inl (between.stops a member)⟩

theorem ReadsLeaf.inside {node : Leaf StrPair} (reads : ReadsLeaf processEntities p node rest) :
    Inside p rest [node.value] ∧ rest <:+ p := by
  cases reads with
  | @text value rest shown clean more =>
      refine ⟨inside_singleton (List.suffix_refl _) (fun bracket => ?_) (.inr ⟨rfl, rfl⟩),
        List.suffix_append _ _⟩
      cases value with
      | nil => exact absurd blank_nil shown
      | cons first value =>
          cases bracket
          exact absurd List.mem_cons_self clean
  | @markup kind blanks value _ blank isMarkup clean other =>
      have start : value ++ (kind.ender ++ rest) <:+
          blanks ++ (kind.header ++ (value ++ (kind.ender ++ rest))) :=
        (List.suffix_append _ _).trans (List.suffix_append _ _)
      have header : 0 < kind.header.length := by
        cases kind with
        | text => exact absurd rfl isMarkup
        | _ => decide
      have ender : 0 < kind.ender.length :=
        List.length_pos_iff.mpr (endsFresh_ender kind).ne_nil
      refine ⟨inside_singleton start (fun _ => ?_) (.inl ?_),
        ((List.suffix_append _ _).trans (List.suffix_append _ _)).trans start⟩
      · simp only [StrPair.start, List.length_append]
        omega
      · rw [List.length_append]
        omega

theorem ReadsTag.behind {name : StrPair} {attributes : List (Attribute StrPair)}
    {closingType : ClosingType} (blanks : Text)
    (reads : ReadsTag processEntities p name attributes closingType rest) :
    rest <:+ blanks ++ byte '<' :: p :=
  reads.between.2.trans ((List.suffix_cons _ _).trans (List.suffix_append _ _))

theorem ReadsEndTag.behind {name : StrPair} (reads : ReadsEndTag processEntities p name rest) :
    rest <:+ p := by
  cases reads with
  | mk blank tag => exact tag.behind _

theorem Reads.behind {nodes : Nodes StrPair} (reads : Reads processEntities p nodes rest) :
    rest <:+ p := by
  induction reads with
  | nil p => exact List.suffix_refl p
  | leaf first others ih => exact ih.trans first.inside.2
  | closed blank tag others ih => exact ih.trans (tag.behind _)
  | element blank tag inner endTag same others ihInner ihOthers =>
      exact ihOthers.trans (endTag.behind.trans (ihInner.trans (tag.behind _)))

/-! ## Reading strings in any order -/

/-- The memory with the text, and the strings that were read already. -/
structure Strings where
  memory : Memory Byte
  flushed : List StrPair

/-- Where a pointer into a text of the size is. -/
def place (base size : Nat) (p : Text) : Nat :=
  base + (size - p.length)

/-- `Value` of a node; `none` is a null pointer that is read. -/
def getValue (base size : Nat) (pair : StrPair) (s : Strings) : Option Strings :=
  if pair ∈ s.flushed then
    some s
  else
    (getStr pair.flags s.memory (place base size pair.start) (place base size pair.rest)).map
      fun memory => ⟨memory, pair :: s.flushed⟩

/-- Strings are read one after another. -/
def getValues (base size : Nat) : List StrPair → Strings → Option Strings
  | [], s => some s
  | pair :: others, s =>
      match getValue base size pair s with
      | none => none
      | some s => getValues base size others s

/-- The memory has a value, and a null character behind it. -/
def Holds (memory : Memory Byte) (at' : Nat) (value : Text) : Prop :=
  memory.read at' value.length = value ∧ memory (at' + value.length) = 0

/-- Strings that were read have their values, and the others are as they were parsed. -/
structure Settled (base size : Nat) (pairs : List StrPair) (s : Strings) : Prop where
  unread : ∀ a ∈ pairs, a ∉ s.flushed →
    s.memory.read (place base size a.start) a.text.length = a.text
  read : ∀ a ∈ s.flushed, a ∈ pairs ∧ ∃ value, a.value = some value ∧
    value.length ≤ a.text.length ∧ Holds s.memory (place base size a.start) value

section Order

variable {base : Nat} {s s' : Strings} {a b pair : StrPair}

theorem place_start (base : Nat) (inside : a.start <:+ p) :
    place base p.length a.rest = place base p.length a.start + a.text.length := by
  have shorter := inside.length_le
  have size : a.start.length = a.text.length + a.rest.length := List.length_append
  unfold place
  omega

/-- Two strings of a text, and the bytes behind them, are apart. -/
theorem Spread.places (base : Nat) (spread : Spread p pairs) (inPairs : a ∈ pairs)
    (inPairs' : b ∈ pairs) (different : a ≠ b) :
    place base p.length a.rest < place base p.length b.start ∨
      place base p.length b.rest < place base p.length a.start := by
  have within (x y : StrPair) (before : Before x y)
      (start : x.start <:+ p) :
      place base p.length x.rest < place base p.length y.start := by
    have size : x.start.length = x.text.length + x.rest.length := List.length_append
    have shorter := start.length_le
    unfold Before at before
    unfold place
    omega
  rcases spread.apart a inPairs b inPairs' different with before | before
  · exact .inl (within a b before (spread.starts a inPairs).1)
  · exact .inr (within b a before (spread.starts b inPairs').1)

theorem read_suffix {memory : Memory Byte} {q : Text} (text : memory.read base p.length = p)
    (inside : q <:+ p) : memory.read (place base p.length q) q.length = q := by
  rcases inside with ⟨front, rfl⟩
  rw [List.length_append, Memory.read_add] at text
  have back := (List.append_inj text (Memory.length_read _ _ _)).2
  unfold place
  rwa [List.length_append, Nat.add_sub_cancel_right]

theorem settled_nil {memory : Memory Byte} (text : memory.read base p.length = p)
    (spread : Spread p pairs) : Settled base p.length pairs ⟨memory, []⟩ := by
  refine ⟨fun a member _ => ?_, fun a member => absurd member List.not_mem_nil⟩
  have whole := read_suffix text (spread.starts a member).1
  have size : a.start.length = a.text.length + a.rest.length := List.length_append
  rw [size, Memory.read_add] at whole
  exact (List.append_inj whole (Memory.length_read _ _ _)).1

/-- Where one string is written and nothing else, the others are as they were. -/
theorem Settled.flush {memory : Memory Byte} {value : Text}
    (settled : Settled base p.length pairs s) (spread : Spread p pairs)
    (member : pair ∈ pairs) (isUnread : pair ∉ s.flushed)
    (isValue : pair.value = some value) (fits : value.length ≤ pair.text.length)
    (holds : Holds memory (place base p.length pair.start) value)
    (frame : ∀ i, i < place base p.length pair.start ∨ place base p.length pair.rest < i →
      memory i = s.memory i) : Settled base p.length pairs ⟨memory, pair :: s.flushed⟩ := by
  constructor
  · intro b inPairs unread
    rw [List.mem_cons, not_or] at unread
    refine Eq.trans ?_ (settled.unread b inPairs unread.2)
    have stop := place_start base (spread.starts b inPairs).1
    refine Memory.read_congr fun i lower upper => frame i ?_
    rcases spread.places base inPairs member unread.1 with before | behind
    · exact .inl (by omega)
    · exact .inr (by omega)
  · intro b inFlushed
    rcases List.mem_cons.mp inFlushed with rfl | earlier
    · exact ⟨member, value, isValue, fits, holds⟩
    · rcases settled.read b earlier with ⟨inPairs, value', same, small, holds', ended'⟩
      have different : b ≠ pair := by
        rintro rfl
        exact isUnread earlier
      have stop := place_start base (spread.starts b inPairs).1
      have kept : ∀ i, place base p.length b.start ≤ i →
          i < place base p.length b.start + (value'.length + 1) → memory i = s.memory i := by
        intro i lower upper
        refine frame i ?_
        rcases spread.places base inPairs member different with before | behind
        · exact .inl (by omega)
        · exact .inr (by omega)
      refine ⟨inPairs, value', same, small, ?_, ?_⟩
      · refine Eq.trans (Memory.read_congr fun i lower upper => ?_) holds'
        exact kept i lower (by omega)
      · exact (kept _ (by omega) (by omega)).trans ended'

/-- A string is read from what was parsed, and no other one is changed. -/
theorem getValue_settled (clean : 0 ∉ p) (spread : Spread p pairs)
    (settled : Settled base p.length pairs s) (member : pair ∈ pairs) :
    (getValue base p.length pair s = none ↔ pair.value = none) ∧
      ∀ s', getValue base p.length pair s = some s' →
        Settled base p.length pairs s' ∧ pair ∈ s'.flushed ∧ s.flushed ⊆ s'.flushed := by
  unfold getValue
  by_cases flushed : pair ∈ s.flushed
  · rw [if_pos flushed]
    rcases settled.read pair flushed with ⟨_, value, same, _⟩
    refine ⟨by simp [same], fun s' again => ?_⟩
    cases again
    exact ⟨settled, flushed, List.Subset.refl _⟩
  · rw [if_neg flushed]
    have stop := place_start base (spread.starts pair member).1
    have noNull : 0 ∉ pair.text := by
      intro null
      exact clean ((spread.starts pair member).1.subset (List.mem_append_left _ null))
    have order : place base p.length pair.start ≤ place base p.length pair.rest := by omega
    have there : s.memory.read (place base p.length pair.start)
        (place base p.length pair.rest - place base p.length pair.start) = pair.text := by
      rw [stop, Nat.add_sub_cancel_left]
      exact settled.unread pair member flushed
    refine ⟨?_, ?_⟩
    · rw [getStr_eq order there noNull, Option.map_map, Option.map_eq_none_iff]
      rfl
    · intro s' read
      rcases Option.map_eq_some_iff.mp read with ⟨memory, got, rfl⟩
      rcases getStr_holds order there noNull got with
        ⟨placed, value, room, holds, ended, frame⟩
      refine ⟨?_, List.mem_cons_self, List.subset_cons_self _ _⟩
      exact settled.flush spread member flushed value (by omega) ⟨holds, ended⟩ frame

theorem getValues_settled {order : List StrPair} (clean : 0 ∉ p) (spread : Spread p pairs)
    (settled : Settled base p.length pairs s) (all : ∀ a ∈ order, a ∈ pairs) :
    (getValues base p.length order s = none ↔ ∃ a ∈ order, a.value = none) ∧
      ∀ s', getValues base p.length order s = some s' →
        Settled base p.length pairs s' ∧ order ⊆ s'.flushed ∧ s.flushed ⊆ s'.flushed := by
  induction order generalizing s with
  | nil =>
      refine ⟨by simp [getValues], ?_⟩
      rintro s' same
      cases same
      exact ⟨settled, List.nil_subset _, List.Subset.refl _⟩
  | cons pair others ih =>
      rw [List.forall_mem_cons] at all
      rcases getValue_settled clean spread settled all.1 with ⟨failed, step⟩
      rw [getValues]
      cases got : getValue base p.length pair s with
      | none =>
          simp [failed.mp got]
      | some s₁ =>
          rcases step s₁ got with ⟨settled₁, flushed, kept⟩
          rcases ih settled₁ all.2 with ⟨failed', run⟩
          have value : pair.value ≠ none := fun none => by
            rw [failed.mpr none] at got
            cases got
          refine ⟨?_, ?_⟩
          · simp [failed', value]
          · intro s' last
            rcases run s' last with ⟨settled', flushed', kept'⟩
            exact ⟨settled', List.cons_subset.mpr ⟨kept' flushed, flushed'⟩,
              List.Subset.trans kept kept'⟩

end Order

end SandPlatform.Xml
