import SandPlatform.Foundation.Memory
import SandPlatform.Xml.Pieces

/-!
# Strings that are changed in place

`GetStr` ends a text where it was cut and stores its value over it.  The write pointer
never gets in front of the read pointer, so the text is read as it was, and nothing
outside of it is touched.  The one byte that is not stored, an ampersand that begins no
reference, is right exactly where the write pointer is on an ampersand anyway.
-/

namespace SandPlatform.Xml

open SandPlatform.Foundation

/-! ## GetStr -/

/-- The text that a pointer into the string that ends at `stop` sees. -/
def textAt (memory : Memory Byte) (p stop : Nat) : Text :=
  (memory.read p (stop - p)).takeWhile fun c => c != 0

/-- Bytes stored one after another. -/
def store (memory : Memory Byte) (q : Nat) (value : Text) : Memory Byte :=
  memory.copy q (Memory.ofList value memory) 0 value.length

/-- One round of the loop: the memory and the two pointers after it.  `none` is a null
pointer that is read in the next round. -/
def getRound (flags : Flags) (stop : Nat) (memory : Memory Byte) (p q : Nat) :
    Option (Memory Byte × Nat × Nat) :=
  if flags.needsNewlineNormalization ∧ memory p = carriageReturn then
    some (store memory q [lineFeed], if memory (p + 1) = lineFeed then p + 2 else p + 1, q + 1)
  else if flags.needsNewlineNormalization ∧ memory p = lineFeed then
    some (store memory q [lineFeed],
      if memory (p + 1) = carriageReturn then p + 2 else p + 1, q + 1)
  else if flags.needsEntityProcessing ∧ memory p = byte '&' then
    if memory (p + 1) = byte '#' then
      (getCharacterRef (textAt memory p stop)).map fun ref =>
        (store memory q ref.1, stop - ref.2.length, q + ref.1.length)
    else
      match findEntity (textAt memory (p + 1) stop) with
      | some e => some (store memory q [e.value], p + (e.length + 2), q + 1)
      | none => some (memory, p + 1, q + 1)
  else
    some (store memory q [memory p], p + 1, q + 1)

/-- The loop of `GetStr`, with the pointers that it reads and writes at; it stops at the
null character behind the text. -/
def getLoop (flags : Flags) (stop : Nat) : Nat → Memory Byte → Nat → Nat →
    Option (Memory Byte × Nat)
  | 0, memory, _, q => some (memory, q)
  | count + 1, memory, p, q =>
      if p < stop then
        match getRound flags stop memory p q with
        | none => none
        | some (memory', p', q') => getLoop flags stop count memory' p' q'
      else
        some (memory, q)

/-- `GetStr` of a text that was not read before. -/
def getStr (flags : Flags) (memory : Memory Byte) (start stop : Nat) : Option (Memory Byte) :=
  let memory := memory.fill stop 1 0
  if flags = Flags.none then
    some memory
  else
    (getLoop flags stop (stop - start) memory start start).map fun state =>
      state.1.fill state.2 1 0

/-! ## Stored bytes -/

section Store

variable {memory : Memory Byte} {q i : Nat} {value : Text}

theorem store_of_lt (before : i < q) : store memory q value i = memory i :=
  Memory.copy_apply_of_lt before

theorem store_of_ge (after : q + value.length ≤ i) : store memory q value i = memory i :=
  Memory.copy_apply_of_ge after

theorem read_store (memory : Memory Byte) (q : Nat) (value : Text) :
    (store memory q value).read q value.length = value := by
  rw [store, Memory.read_copy, Memory.read_ofList]

@[simp]
theorem store_nil (memory : Memory Byte) (q : Nat) : store memory q [] = memory := by
  funext i
  by_cases before : i < q
  · exact store_of_lt before
  · exact store_of_ge (Nat.le_of_not_lt before)

theorem store_append (memory : Memory Byte) (q : Nat) (first second : Text) :
    store (store memory q first) (q + first.length) second = store memory q (first ++ second) := by
  funext i
  by_cases before : i < q + first.length
  · rw [store_of_lt before]
    by_cases front : i < q
    · rw [store_of_lt front, store_of_lt front]
    · have inside : i - q < first.length := by omega
      have whole : 0 + (i - q) < (first ++ second).length := by
        rw [List.length_append]
        omega
      rw [store, Memory.copy_apply_of_mem (by omega) before,
        Memory.ofList_apply_of_lt (by omega), store,
        Memory.copy_apply_of_mem (by omega) (by omega), Memory.ofList_apply_of_lt whole,
        List.getElem_append_left (by omega)]
  · by_cases behind : i < q + first.length + second.length
    · have whole : 0 + (i - q) < (first ++ second).length := by
        rw [List.length_append]
        omega
      rw [store, Memory.copy_apply_of_mem (by omega) (by omega),
        Memory.ofList_apply_of_lt (by omega), store,
        Memory.copy_apply_of_mem (by omega) (by omega), Memory.ofList_apply_of_lt whole,
        List.getElem_append_right (by omega)]
      congr 1
      omega
    · rw [store_of_ge (by omega), store_of_ge (by omega),
        store_of_ge (by rw [List.length_append]; omega)]

/-- A byte that is there already may be stored. -/
theorem store_self (memory : Memory Byte) (q : Nat) : store memory q [memory q] = memory := by
  rw [store, Memory.copy_eq_self_iff]
  simp [Memory.read, Memory.ofList]

end Store

/-! ## The loop and the pieces -/

/-- What is in the place of the value: where an ampersand is left out, the byte that was
there. -/
def written (text : Text) : Nat → List (Option Text) → Text
  | _, [] => []
  | q, stored :: parts =>
      stored.getD [text.getD q 0] ++
        written text (q + (stored.getD [text.getD q 0]).length) parts

/-- The places of the ampersands that are left out, from a place on. -/
def leftOut : Nat → List (Option Text) → List Nat
  | _, [] => []
  | q, some value :: parts => leftOut (q + value.length) parts
  | q, none :: parts => q :: leftOut (q + 1) parts

/-- The places in the value of the ampersands that begin no reference. -/
def bareAmpersands (flags : Flags) (text : Text) : List Nat :=
  ((pieces flags text.length text).map fun parts => leftOut 0 parts).getD []

/-- The pointers and the memory from the write pointer on, as a round finds them. -/
structure Ahead (text : Text) (start : Nat) (memory : Memory Byte) (p q : Nat) : Prop where
  behind : q ≤ p
  inside : p ≤ text.length
  kept : ∀ i, q ≤ i → i ≤ text.length → memory (start + i) = text.getD i 0

section Loop

variable {flags : Flags} {text : Text} {start p q : Nat} {memory : Memory Byte}

theorem Ahead.read (ahead : Ahead text start memory p q) {at' : Nat} (later : p ≤ at') :
    memory.read (start + at') (text.length - at') = text.drop at' := by
  apply List.ext_getElem
  · simp
  · intro i inside inside'
    have bound : at' + i < text.length := by
      simp only [List.length_drop] at inside'
      omega
    have before := ahead.behind
    rw [Memory.getElem_read, Nat.add_assoc, ahead.kept _ (by omega) (Nat.le_of_lt bound),
      List.getElem_drop, List.getD_eq_getElem?_getD, List.getElem?_eq_getElem bound,
      Option.getD_some]

theorem Ahead.textAt (ahead : Ahead text start memory p q) (clean : 0 ∉ text) {at' : Nat}
    (later : p ≤ at') : textAt memory (start + at') (start + text.length) = text.drop at' := by
  rw [Xml.textAt, Nat.add_sub_add_left, ahead.read later, List.takeWhile_eq_self_iff]
  intro c member
  have inText := List.mem_of_mem_drop member
  simp only [bne_iff_ne, ne_eq]
  rintro rfl
  exact clean inText

/-- The byte behind the first one. -/
theorem Ahead.next (ahead : Ahead text start memory p q) {c other : Byte} {next : Text}
    (sees : text.drop p = c :: next) (real : other ≠ 0) :
    memory (start + p + 1) = other ↔ next[0]? = some other := by
  have lengths := congrArg List.length sees
  simp only [List.length_drop, List.length_cons] at lengths
  have before := ahead.behind
  have second : next[0]? = text[p + 1]? := by
    rw [← List.getElem?_drop, sees]
    rfl
  rw [Nat.add_assoc, ahead.kept _ (by omega) (by omega), second, List.getD_eq_getElem?_getD]
  cases text[p + 1]? with
  | none => exact ⟨fun same => absurd same.symm real, fun found => by cases found⟩
  | some c => simp

/-- A round does what the piece says. -/
theorem getRound_eq (ahead : Ahead text start memory p q) (clean : 0 ∉ text)
    {c : Byte} {next : Text} (sees : text.drop p = c :: next) :
    getRound flags (start + text.length) memory (start + p) (start + q) =
      (piece flags c next).map fun part =>
        (store memory (start + q) (part.1.getD [text.getD q 0]),
          start + (text.length - part.2.length),
          start + q + (part.1.getD [text.getD q 0]).length) := by
  have lengths := congrArg List.length sees
  simp only [List.length_drop, List.length_cons] at lengths
  have before := ahead.behind
  have first : memory (start + p) = c := by
    have whole : text[p]? = some c := by
      have head := congrArg (fun t : Text => t[0]?) sees
      simpa [List.getElem?_drop] using head
    rw [ahead.kept p before ahead.inside, List.getD_eq_getElem?_getD, whole]
    rfl
  have here : memory (start + q) = text.getD q 0 := ahead.kept q (Nat.le_refl q) (by omega)
  have atFirst : textAt memory (start + p) (start + text.length) = c :: next := by
    rw [ahead.textAt clean (Nat.le_refl p), sees]
  have atNext : textAt memory (start + p + 1) (start + text.length) = next := by
    rw [Nat.add_assoc, ahead.textAt clean (Nat.le_add_right p 1), ← List.drop_drop, sees]
    rfl
  have moved (other : Byte) (real : other ≠ 0) :
      (if memory (start + p + 1) = other then start + p + 2 else start + p + 1) =
        start + (text.length - (skipOver other next).length) := by
    rw [skipOver]
    by_cases pair : next[0]? = some other
    · rw [if_pos ((ahead.next sees real).mpr pair), if_pos pair, List.length_drop]
      have : 0 < next.length := by
        cases next with
        | nil => cases pair
        | cons _ _ => simp
      omega
    · rw [if_neg (fun found => pair ((ahead.next sees real).mp found)), if_neg pair]
      omega
  unfold getRound piece
  rw [first, atFirst, atNext, moved lineFeed (by decide), moved carriageReturn (by decide)]
  by_cases isReturn : flags.needsNewlineNormalization = true ∧ c = carriageReturn
  · rw [if_pos isReturn, if_pos isReturn]
    rfl
  rw [if_neg isReturn, if_neg isReturn]
  by_cases isFeed : flags.needsNewlineNormalization = true ∧ c = lineFeed
  · rw [if_pos isFeed, if_pos isFeed]
    rfl
  rw [if_neg isFeed, if_neg isFeed]
  by_cases isReference : flags.needsEntityProcessing = true ∧ c = byte '&'
  · rw [if_pos isReference, if_pos isReference]
    by_cases isHash : next[0]? = some (byte '#')
    · rw [if_pos ((ahead.next sees (by decide)).mpr isHash), if_pos isHash, Option.map_map]
      cases read : getCharacterRef (c :: next) with
      | none => rfl
      | some ref =>
          rcases length_of_getCharacterRef read with ⟨taken, same, _⟩
          have shorter := congrArg List.length same
          rw [List.length_append] at shorter
          simp only [Option.map_some, Function.comp_apply, Option.getD_some,
            Option.some.injEq, Prod.mk.injEq, true_and, and_true]
          omega
    · rw [if_neg (fun found => isHash ((ahead.next sees (by decide)).mp found)),
        if_neg isHash]
      cases found : findEntity next with
      | none =>
          simp only [Option.map_some, Option.getD_none, List.length_singleton, ← here,
            store_self, Option.some.injEq, Prod.mk.injEq, true_and, and_true]
          omega
      | some e =>
          rcases findEntity_eq_some found with ⟨listed, behind, same, dropped⟩
          have shorter := congrArg List.length same
          rw [List.length_append, List.length_cons, ← entities_length e listed] at shorter
          simp only [Option.map_some, Option.getD_some, List.length_singleton, dropped,
            Option.some.injEq, Prod.mk.injEq, true_and, and_true]
          omega
  · rw [if_neg isReference, if_neg isReference]
    simp only [Option.map_some, Option.getD_some, List.length_singleton,
      Option.some.injEq, Prod.mk.injEq, true_and, and_true]
    omega

/-- The next round finds the pointers and the memory as it should. -/
theorem Ahead.round (ahead : Ahead text start memory p q) {c : Byte} {next behind : Text}
    {stored : Option Text} (sees : text.drop p = c :: next)
    (read : piece flags c next = some (stored, behind)) :
    Ahead text start (store memory (start + q) (stored.getD [text.getD q 0]))
        (text.length - behind.length) (q + (stored.getD [text.getD q 0]).length) ∧
      text.drop (text.length - behind.length) = behind := by
  have lengths := congrArg List.length sees
  simp only [List.length_drop, List.length_cons] at lengths
  have before := ahead.behind
  rcases piece_behind read with ⟨taken, rfl, room⟩
  have small : (stored.getD [text.getD q 0]).length ≤ taken.length + 1 := by
    cases stored with
    | none => simp
    | some value => exact room value rfl
  rw [List.length_append] at lengths
  refine ⟨⟨by omega, Nat.sub_le _ _, fun i later inside => ?_⟩, ?_⟩
  · rw [store_of_ge (by omega)]
    exact ahead.kept i (by omega) inside
  · have place : text.length - behind.length = p + (taken.length + 1) := by omega
    rw [place, ← List.drop_drop, sees]
    simp

theorem getLoop_eq (flags : Flags) (ahead : Ahead text start memory p q) (clean : 0 ∉ text)
    (count : Nat) :
    getLoop flags (start + text.length) count memory (start + p) (start + q) =
      (pieces flags count (text.drop p)).map fun parts =>
        (store memory (start + q) (written text q parts),
          start + q + (written text q parts).length) := by
  induction count generalizing memory p q with
  | zero => simp [getLoop, pieces, written]
  | succ count ih =>
      cases sees : text.drop p with
      | nil =>
          have done : text.length ≤ p := List.drop_eq_nil_iff.mp sees
          rw [getLoop, if_neg (by omega)]
          simp [pieces, written]
      | cons c next =>
          have lengths := congrArg List.length sees
          simp only [List.length_drop, List.length_cons] at lengths
          rw [getLoop, if_pos (by omega), getRound_eq ahead clean sees, pieces]
          cases read : piece flags c next with
          | none => rfl
          | some part =>
              rcases part with ⟨stored, behind⟩
              rcases ahead.round sees read with ⟨ahead', sees'⟩
              simp only [Option.map_some, Nat.add_assoc start q]
              rw [ih ahead', sees', Option.map_map]
              congr 1
              funext parts
              simp only [Function.comp_apply, written, List.length_append]
              rw [← Nat.add_assoc start q, store_append, Nat.add_assoc, Nat.add_assoc]

end Loop

/-! ## The value in its place -/

/-- What `GetStr` leaves in the place of a text. -/
def valueInPlace (flags : Flags) (text : Text) : Option Text :=
  (pieces flags text.length text).map fun parts => written text 0 parts

theorem length_written (text : Text) (q : Nat) (parts : List (Option Text)) :
    (written text q parts).length =
      (parts.map fun stored => stored.getD [byte '&']).flatten.length := by
  induction parts generalizing q with
  | nil => rfl
  | cons stored parts ih =>
      rw [written, List.map_cons, List.flatten_cons, List.length_append, List.length_append, ih]
      cases stored <;> rfl

/-- The value has room in the place of the text. -/
theorem length_pieces {flags : Flags} {count : Nat} {text : Text}
    {parts : List (Option Text)} (read : pieces flags count text = some parts) :
    (parts.map fun stored => stored.getD [byte '&']).flatten.length ≤ text.length := by
  induction count generalizing text parts with
  | zero =>
      cases read
      exact Nat.zero_le _
  | succ count ih =>
      cases text with
      | nil =>
          cases read
          exact Nat.zero_le _
      | cons c next =>
          rw [pieces] at read
          cases first : piece flags c next with
          | none => simp [first] at read
          | some part =>
              rcases part with ⟨stored, behind⟩
              rw [first] at read
              rcases Option.map_eq_some_iff.mp read with ⟨parts', further, rfl⟩
              rcases piece_behind first with ⟨taken, rfl, room⟩
              have rest := ih further
              have small : (stored.getD [byte '&']).length ≤ taken.length + 1 := by
                cases stored with
                | none => simp
                | some value => exact room value rfl
              rw [List.map_cons, List.flatten_cons, List.length_append, List.length_cons,
                List.length_append]
              omega

/-- The bytes that are left out decide whether the value is in its place. -/
theorem written_eq_iff (text : Text) (q : Nat) (parts : List (Option Text)) :
    written text q parts = (parts.map fun stored => stored.getD [byte '&']).flatten ↔
      ∀ r ∈ leftOut q parts, text.getD r 0 = byte '&' := by
  induction parts generalizing q with
  | nil => simp [written, leftOut]
  | cons stored parts ih =>
      cases stored with
      | some value => simp [written, leftOut, ih]
      | none => simp [written, leftOut, ih]

theorem length_valueInPlace {flags : Flags} {text placed : Text}
    (value : valueInPlace flags text = some placed) : placed.length ≤ text.length := by
  rcases Option.map_eq_some_iff.mp value with ⟨parts, read, rfl⟩
  rw [length_written]
  exact length_pieces read

theorem valueInPlace_eq_none_iff {flags : Flags} {text : Text} :
    valueInPlace flags text = none ↔ decode flags text = none := by
  rw [valueInPlace, decode, Option.map_eq_none_iff, Option.map_eq_none_iff]

theorem decode_of_valueInPlace {flags : Flags} {text placed : Text}
    (value : valueInPlace flags text = some placed) :
    ∃ value, decode flags text = some value ∧ placed.length = value.length ∧
      (placed = value ↔ ∀ q ∈ bareAmpersands flags text, text.getD q 0 = byte '&') := by
  rcases Option.map_eq_some_iff.mp value with ⟨parts, read, rfl⟩
  refine ⟨_, ?_, length_written text 0 parts, ?_⟩
  · rw [decode, read, Option.map_some]
  · rw [written_eq_iff, bareAmpersands, read, Option.map_some, Option.getD_some]

theorem store_singleton (memory : Memory Byte) (q : Nat) (c : Byte) :
    store memory q [c] = memory.fill q 1 c := by
  funext i
  by_cases inside : q ≤ i ∧ i < q + 1
  · have upper : i < q + [c].length := inside.2
    have first : 0 + (i - q) = 0 := by omega
    rw [Memory.fill_apply_of_mem inside.1 inside.2, store,
      Memory.copy_apply_of_mem inside.1 upper, first]
    rfl
  · rw [Memory.fill_apply_of_not_mem inside]
    by_cases before : i < q
    · exact store_of_lt before
    · exact store_of_ge (by rw [List.length_singleton]; omega)

section GetStr

variable {flags : Flags} {memory memory' : Memory Byte} {start stop : Nat} {text value : Text}

theorem valueInPlace_none (text : Text) : valueInPlace Flags.none text = some text := by
  have values := decode_none text
  rw [decode, Option.map_eq_some_iff] at values
  rcases values with ⟨parts, read, same⟩
  rw [valueInPlace, read, Option.map_some]
  congr 1
  rw [← same]
  refine (written_eq_iff _ 0 parts).mpr ?_
  have plain : ∀ (count : Nat) (text : Text) (parts : List (Option Text)) (q : Nat),
      pieces Flags.none count text = some parts → leftOut q parts = [] := by
    intro count
    induction count with
    | zero =>
        intro text parts q read
        cases read
        rfl
    | succ count ih =>
        intro text parts q read
        cases text with
        | nil =>
            cases read
            rfl
        | cons c next =>
            rw [pieces, piece_plain (by simp [Flags.none]) (by simp [Flags.none])] at read
            rcases Option.map_eq_some_iff.mp read with ⟨parts', further, rfl⟩
            exact ih next parts' _ further
  rw [plain _ _ _ 0 read]
  simp

/-- `GetStr` stores the value and a null character behind it, over the text. -/
theorem getStr_eq (order : start ≤ stop) (holds : memory.read start (stop - start) = text)
    (clean : 0 ∉ text) :
    getStr flags memory start stop =
      (valueInPlace flags text).map fun value =>
        store (memory.fill stop 1 0) start (value ++ [0]) := by
  have size : stop = start + text.length := by
    have lengths := congrArg List.length holds
    rw [Memory.length_read] at lengths
    omega
  have cells : ∀ i, i < text.length → memory (start + i) = text.getD i 0 := by
    intro i inside
    subst holds
    rw [List.getD_eq_getElem?_getD, List.getElem?_eq_getElem inside, Option.getD_some,
      Memory.getElem_read]
  have ahead : Ahead text start (memory.fill stop 1 0) 0 0 := by
    refine ⟨Nat.le_refl 0, Nat.zero_le _, fun i _ inside => ?_⟩
    by_cases last : i < text.length
    · rw [Memory.fill_apply_of_not_mem (by omega), cells i last]
    · rw [Memory.fill_apply_of_mem (by omega) (by omega), List.getD_eq_getElem?_getD,
        List.getElem?_eq_none (by omega), Option.getD_none]
  unfold getStr
  by_cases plain : flags = Flags.none
  · rw [if_pos plain, plain, valueInPlace_none, Option.map_some]
    congr 1
    refine (Memory.copy_eq_self_iff.mpr ?_).symm
    rw [Memory.read_ofList, List.length_append, List.length_singleton, Memory.read_add,
      ← size]
    have whole := ahead.read (Nat.le_refl 0)
    rw [Nat.add_zero, Nat.sub_zero, List.drop_zero] at whole
    rw [whole]
    simp [Memory.read, Memory.fill]
  · rw [if_neg plain]
    have loop := getLoop_eq flags ahead clean (stop - start)
    rw [Nat.add_zero, ← size, List.drop_zero] at loop
    rw [loop, Option.map_map, valueInPlace, Option.map_map, size, Nat.add_sub_cancel_left]
    congr 1
    funext parts
    simp only [Function.comp_apply]
    rw [← store_singleton, store_append]

/-- The bytes of the value that `GetStr` stored. -/
theorem getStr_holds (order : start ≤ stop) (holds : memory.read start (stop - start) = text)
    (clean : 0 ∉ text) (read : getStr flags memory start stop = some memory') :
    ∃ placed, valueInPlace flags text = some placed ∧ start + placed.length ≤ stop ∧
      memory'.read start placed.length = placed ∧ memory' (start + placed.length) = 0 ∧
        ∀ i, i < start ∨ stop < i → memory' i = memory i := by
  have size := congrArg List.length holds
  rw [Memory.length_read] at size
  rw [getStr_eq order holds clean] at read
  rcases Option.map_eq_some_iff.mp read with ⟨placed, value, rfl⟩
  have small := length_valueInPlace value
  refine ⟨placed, value, by omega, ?_, ?_, ?_⟩
  · calc
      (store (memory.fill stop 1 0) start (placed ++ [0])).read start placed.length
          = (store (memory.fill stop 1 0) start placed).read start placed.length := by
        rw [← store_append]
        exact Memory.read_congr fun i _ inside => store_of_lt inside
      _ = placed := read_store _ _ _
  · rw [← store_append, store_singleton,
      Memory.fill_apply_of_mem (Nat.le_refl _) (Nat.lt_succ_self _)]
  · rintro i (before | after)
    · rw [store_of_lt before, Memory.fill_apply_of_not_mem (by omega)]
    · have behind : start + (placed ++ [0]).length ≤ i := by
        rw [List.length_append, List.length_singleton]
        omega
      rw [store_of_ge behind, Memory.fill_apply_of_not_mem (by omega)]

/-- Reading a string in its place is safe: it stays within the text and the byte behind
it, it fails only where the value of the text is not defined, and what is there after it
is the value exactly if an ampersand is in each place where one is left out. -/
theorem getStr_exact (order : start ≤ stop)
    (holds : memory.read start (stop - start) = text) (clean : 0 ∉ text) :
    (getStr flags memory start stop = none ↔ decode flags text = none) ∧
      ∀ memory', getStr flags memory start stop = some memory' →
        (∀ i, i < start ∨ stop < i → memory' i = memory i) ∧
          ∃ value, decode flags text = some value ∧ start + value.length ≤ stop ∧
            memory' (start + value.length) = 0 ∧
            (memory'.read start value.length = value ↔
              ∀ q ∈ bareAmpersands flags text, text.getD q 0 = byte '&') := by
  constructor
  · rw [getStr_eq order holds clean, Option.map_eq_none_iff, valueInPlace_eq_none_iff]
  · intro memory' read
    rcases getStr_holds order holds clean read with
      ⟨placed, inPlace, room, there, ended, frame⟩
    rcases decode_of_valueInPlace inPlace with ⟨value, decoded, lengths, exact⟩
    refine ⟨frame, value, decoded, by rwa [← lengths], by rwa [← lengths], ?_⟩
    rw [← lengths, there, exact]

/-- The ampersand behind a shortened reference: a letter of the reference is left in the
place of it. -/
theorem getStr_exact_shortened :
    decode Flags.textElement (bytes ['&', 'l', 't', ';', '&']) = some (bytes ['<', '&']) ∧
      ∀ memory', getStr Flags.textElement
          (Memory.ofList (bytes ['&', 'l', 't', ';', '&']) fun _ => 0) 0 5 = some memory' →
        memory'.read 0 2 ≠ bytes ['<', '&'] := by
  have value : decode Flags.textElement (bytes ['&', 'l', 't', ';', '&']) =
      some (bytes ['<', '&']) := by decide
  refine ⟨value, fun memory' read => ?_⟩
  have there : (Memory.ofList (bytes ['&', 'l', 't', ';', '&']) fun _ => 0).read 0 (5 - 0) =
      bytes ['&', 'l', 't', ';', '&'] := by decide
  rcases (getStr_exact (by decide) there (by decide)).2 memory' read with
    ⟨_, value', decoded, _, _, exact⟩
  rw [value] at decoded
  cases decoded
  intro there
  exact absurd (exact.mp there) (by decide)

end GetStr

end SandPlatform.Xml
