import SandPlatform.Xml.RoundTrip

/-!
# The buffer of a printer

`DynArray` grows to twice the size it needs.  A printer for memory keeps its string in
one: every call of `Print` writes over the null character of the one before.  It never
writes outside the array, and what is in it in the end is the document, as one string.
-/

namespace SandPlatform.Xml

open SandPlatform.Foundation

universe u

/-! ## DynArray -/

/-- The memory of the array; its length is what is allocated.  Sizes are `int`s, and an
operation that would compute a greater one is undefined. -/
structure DynArray (α : Type u) where
  mem : List α
  size : Nat
  fits : size ≤ mem.length

namespace DynArray

variable {α : Type u}

/-- `fresh` is what memory holds that nobody has written. -/
def new (init : Nat) (fresh : Nat → α) : DynArray α :=
  ⟨(List.range init).map fresh, 0, Nat.zero_le _⟩

/-- The new memory: the elements in use are copied, the others are as they were allocated. -/
def grow (fresh : Nat → α) (newAllocated : Nat) (array : DynArray α) : List α :=
  array.mem.take array.size ++
    (List.range (newAllocated - array.size)).map fun i => fresh (array.size + i)

theorem length_grow (fresh : Nat → α) (newAllocated : Nat) (array : DynArray α) :
    (array.grow fresh newAllocated).length = array.size + (newAllocated - array.size) := by
  have fits := array.fits
  simp [grow, fits]

/-- What `EnsureCapacity` computes for a capacity fits an `int`. -/
def Countable (cap : Nat) (array : DynArray α) : Prop :=
  cap < 2 ^ 31 ∧ (array.mem.length < cap → cap * 2 < 2 ^ 31)

instance (cap : Nat) (array : DynArray α) : Decidable (array.Countable cap) :=
  inferInstanceAs (Decidable (_ ∧ _))

theorem countable_of_lt {cap : Nat} (small : cap < 2 ^ 30) (array : DynArray α) :
    array.Countable cap :=
  ⟨by omega, fun _ => by omega⟩

/-- `EnsureCapacity`: memory is allocated for twice as many elements as are asked for. -/
def ensureCapacity (fresh : Nat → α) (cap : Nat) (array : DynArray α) : DynArray α :=
  if cap > array.mem.length then
    ⟨array.grow fresh (cap * 2), array.size, by rw [length_grow]; omega⟩
  else
    array

theorem size_ensureCapacity (fresh : Nat → α) (cap : Nat) (array : DynArray α) :
    (array.ensureCapacity fresh cap).size = array.size := by
  unfold ensureCapacity
  split_ifs <;> rfl

theorem le_ensureCapacity (fresh : Nat → α) (cap : Nat) (array : DynArray α) :
    cap ≤ (array.ensureCapacity fresh cap).mem.length := by
  unfold ensureCapacity
  split_ifs with more
  · simp only [length_grow]
    omega
  · exact Nat.le_of_not_lt more

/-- Room for some more values, which hold whatever was there. -/
def extended (fresh : Nat → α) (count : Nat) (array : DynArray α) : DynArray α :=
  let ensured := array.ensureCapacity fresh (array.size + count)
  ⟨ensured.mem, ensured.size + count, by
    rw [size_ensureCapacity]
    exact le_ensureCapacity fresh _ array⟩

/-- The index of the new places, and the array with them. -/
def pushArr (fresh : Nat → α) (count : Nat) (array : DynArray α) : Option (Nat × DynArray α) :=
  if array.Countable (array.size + count) then
    some (array.size, array.extended fresh count)
  else
    none

/-- `mem[i] = t`. -/
def set (i : Nat) (t : α) (array : DynArray α) : DynArray α :=
  ⟨array.mem.set i t, array.size, by
    rw [List.length_set]
    exact array.fits⟩

/-- `Push`, for one element; `none` is an overflow of an `int`. -/
def push (fresh : Nat → α) (t : α) (array : DynArray α) : Option (DynArray α) :=
  if array.Countable (array.size + 1) then
    some ((array.extended fresh 1).set array.size t)
  else
    none

/-- Values are written to places of the array; `none` is a write outside of it. -/
def write (index : Nat) (values : List α) (array : DynArray α) : Option (DynArray α) :=
  if inside : index + values.length ≤ array.mem.length then
    some ⟨array.mem.take index ++ (values ++ array.mem.drop (index + values.length)), array.size,
      by have fits := array.fits; simp only [List.length_append, List.length_take,
        List.length_drop]; omega⟩
  else
    none

/-- The values of the array. -/
def contents (array : DynArray α) : List α :=
  array.mem.take array.size

section Contents

variable (fresh : Nat → α) (array : DynArray α)

theorem contents_ensureCapacity (cap : Nat) :
    (array.ensureCapacity fresh cap).contents = array.contents := by
  have fits := array.fits
  unfold ensureCapacity
  split_ifs
  · simp only [contents, grow]
    rw [List.take_append_of_le_length (by simp [fits]), List.take_take, Nat.min_self]
  · rfl

theorem contents_set (t : α) :
    ((array.extended fresh 1).set array.size t).contents = array.contents ++ [t] := by
  have room := le_ensureCapacity fresh (array.size + 1) array
  have kept := array.contents_ensureCapacity fresh (array.size + 1)
  have size := size_ensureCapacity fresh (array.size + 1) array
  rw [contents, size] at kept
  simp only [set, extended, contents, size]
  rw [List.take_succ_eq_append_getElem (by rw [List.length_set]; exact room), List.take_set_of_le
    (Nat.le_refl _), List.getElem_set_self, kept]
  rfl

/-- The capacity is what it was, or twice what is needed. -/
theorem capacity_ensureCapacity (cap : Nat) :
    (array.ensureCapacity fresh cap).mem.length ≤ max array.mem.length (2 * cap) := by
  have fits := array.fits
  unfold ensureCapacity
  split_ifs with more
  · simp only [length_grow]
    omega
  · exact Nat.le_max_left _ _

end Contents

end DynArray

/-! ## Print -/

namespace XMLPrinter

/-- The buffer of a printer that is new. -/
def buffer (fresh : Nat → Byte) : Option (DynArray Byte) :=
  (DynArray.new 20 fresh).push fresh 0

/-- A call of `Print`, by the text that its format makes; `none` is a write outside of the
buffer or a size that is no `int`. -/
def print (fresh : Nat → Byte) (text : Text) (buffer : DynArray Byte) :
    Option (DynArray Byte) := do
  let (ret, buffer) ← buffer.pushArr fresh text.length
  if ret = 0 then none else buffer.write (ret - 1) (text ++ [0])

/-- Calls of `Print` one after another. -/
def prints (fresh : Nat → Byte) : List Text → DynArray Byte → Option (DynArray Byte)
  | [], buffer => some buffer
  | text :: others, buffer => (print fresh text buffer).bind (prints fresh others)

/-- The string from the start of the memory on. -/
def cStr (buffer : DynArray Byte) : Text :=
  buffer.mem.takeWhile (· ≠ 0)

/-- `CStrSize`, the null character included. -/
def cStrSize (buffer : DynArray Byte) : Nat :=
  buffer.size

/-- The buffer holds what was printed and a null character, and is not too large. -/
structure Holds (buffer : DynArray Byte) (printed : Text) : Prop where
  contents : buffer.contents = printed ++ [0]
  capacity : buffer.mem.length ≤ max 20 (2 * buffer.size)

variable {buffer : DynArray Byte} {printed : Text}

theorem Holds.size (holds : Holds buffer printed) : buffer.size = printed.length + 1 := by
  have fits := buffer.fits
  have lengths := congrArg List.length holds.contents
  simp only [DynArray.contents, List.length_take, List.length_append, List.length_singleton]
    at lengths
  omega

theorem holds_buffer (fresh : Nat → Byte) :
    ∃ buffer, XMLPrinter.buffer fresh = some buffer ∧ Holds buffer [] := by
  have empty : (DynArray.new 20 fresh).size = 0 := rfl
  have countable : (DynArray.new 20 fresh).Countable ((DynArray.new 20 fresh).size + 1) := by
    apply DynArray.countable_of_lt
    omega
  rw [XMLPrinter.buffer, DynArray.push, if_pos countable]
  refine ⟨_, rfl, ?_, ?_⟩
  · rw [DynArray.contents_set]
    rfl
  · simp only [DynArray.set, List.length_set]
    exact (DynArray.capacity_ensureCapacity fresh _ _).trans (by simp [DynArray.new])

theorem Holds.print (holds : Holds buffer printed) (fresh : Nat → Byte) {text : Text}
    (small : (printed ++ text).length + 1 < 2 ^ 30) :
    ∃ buffer', XMLPrinter.print fresh text buffer = some buffer' ∧
      Holds buffer' (printed ++ text) := by
  have size := holds.size
  have countable : buffer.Countable (buffer.size + text.length) := by
    apply DynArray.countable_of_lt
    rw [List.length_append] at small
    omega
  have ensured := DynArray.size_ensureCapacity fresh (buffer.size + text.length) buffer
  have kept := buffer.contents_ensureCapacity fresh (buffer.size + text.length)
  have room := DynArray.le_ensureCapacity fresh (buffer.size + text.length) buffer
  have capacity := buffer.capacity_ensureCapacity fresh (buffer.size + text.length)
  have last : (buffer.ensureCapacity fresh (buffer.size + text.length)).size =
      printed.length + 1 := ensured.trans size
  rw [DynArray.contents, last, holds.contents] at kept
  have front : (buffer.ensureCapacity fresh (buffer.size + text.length)).mem.take
      printed.length = printed := by
    have shorter := congrArg (List.take printed.length) kept
    rwa [List.take_take, Nat.min_eq_left (Nat.le_succ _), List.take_left] at shorter
  have inside : printed.length + (text ++ [0]).length ≤
      (buffer.extended fresh text.length).mem.length := by
    simp only [DynArray.extended, List.length_append, List.length_singleton]
    omega
  have written : XMLPrinter.print fresh text buffer =
      (buffer.extended fresh text.length).write printed.length (text ++ [0]) := by
    rw [XMLPrinter.print, DynArray.pushArr, if_pos countable]
    change (if buffer.size = 0 then none else _) = _
    rw [size, if_neg (Nat.add_one_ne_zero _), Nat.add_sub_cancel]
  rw [written, DynArray.write, dif_pos inside]
  refine ⟨_, rfl, ?_, ?_⟩
  · have taken : (buffer.ensureCapacity fresh (buffer.size + text.length)).size + text.length =
        (printed ++ text ++ [0]).length := by
      simp only [List.length_append, List.length_singleton]
      omega
    simp only [DynArray.contents, DynArray.extended]
    rw [front, taken, ← List.append_assoc printed, ← List.append_assoc printed, List.take_left]
  · have whole := holds.capacity
    simp only [DynArray.extended, List.length_append, List.length_take, List.length_drop,
      List.length_singleton, ensured] at inside ⊢
    omega

/-- However a text is split into calls of `Print`, it is in the buffer as one string. -/
theorem Holds.prints (holds : Holds buffer printed) (fresh : Nat → Byte) {texts : List Text}
    (small : (printed ++ texts.flatten).length + 1 < 2 ^ 30) :
    ∃ buffer', XMLPrinter.prints fresh texts buffer = some buffer' ∧
      Holds buffer' (printed ++ texts.flatten) := by
  induction texts generalizing buffer printed with
  | nil => exact ⟨buffer, rfl, by simpa using holds⟩
  | cons text others ih =>
      rw [List.flatten_cons, ← List.append_assoc] at small
      have shorter : (printed ++ text).length + 1 < 2 ^ 30 := by
        rw [List.length_append] at small
        omega
      rcases holds.print fresh shorter with ⟨buffer', prints, holds'⟩
      rcases ih holds' small with ⟨last, further, whole⟩
      refine ⟨last, ?_, by simpa using whole⟩
      rw [XMLPrinter.prints, prints]
      exact further

theorem Holds.cStr (holds : Holds buffer printed) (noNull : 0 ∉ printed) :
    XMLPrinter.cStr buffer = printed := by
  have whole : buffer.mem = printed ++ 0 :: buffer.mem.drop buffer.size := by
    have split := List.take_append_drop buffer.size buffer.mem
    have contents := holds.contents
    rw [DynArray.contents] at contents
    rw [contents] at split
    simpa using split.symm
  have all : ∀ c ∈ printed, decide (c ≠ 0) = true := fun c member =>
    decide_eq_true fun null => noNull (null ▸ member)
  rw [XMLPrinter.cStr, whole, List.takeWhile_append_of_pos all, List.takeWhile_cons_of_neg
    (by simp), List.append_nil]

end XMLPrinter

/-! ## Documents -/

/-- C strings have no null characters. -/
def NoNulls : Nodes Text → Prop
  | .nil => True
  | .leaf node next => 0 ∉ node.value ∧ NoNulls next
  | .element name attributes firstChild next =>
      0 ∉ name ∧ (∀ attrib ∈ attributes, 0 ∉ attrib.name ∧ 0 ∉ attrib.value) ∧
        NoNulls firstChild ∧ NoNulls next

namespace Printer

/-- Nothing that was printed, and no name that is still to be printed, has a null character. -/
structure Clean (s : Printer) : Prop where
  buffer : 0 ∉ s.buffer
  stack : ∀ name ∈ s.stack, 0 ∉ name

variable {s : Printer}

theorem Clean.ite {condition : Prop} [Decidable condition] {t : Printer} (first : s.Clean)
    (second : t.Clean) : (if condition then s else t).Clean := by
  split_ifs
  · exact first
  · exact second

theorem Clean.print (clean : s.Clean) {text : Text} (noNull : 0 ∉ text) :
    (s.print text).Clean := by
  refine ⟨?_, clean.stack⟩
  rw [Printer.print, List.mem_append, not_or]
  exact ⟨clean.buffer, noNull⟩

theorem Clean.printSpace (clean : s.Clean) (depth : Int) : (s.printSpace depth).Clean := by
  apply clean.print
  intro null
  rcases List.mem_flatten.mp null with ⟨space, isSpace, inside⟩
  rw [List.eq_of_mem_replicate isSpace] at inside
  revert inside
  decide

theorem noNull_printEntity (q : Byte) : 0 ∉ printEntity q := by
  have none : ∀ e ∈ entities, 0 ∉ e.pattern := by decide
  unfold printEntity
  split
  · next e found =>
      have pattern := none e (List.mem_of_find?_eq_some found)
      simpa [byte] using pattern
  · simp

theorem noNull_printRuns {flag : Byte → Bool} {run p : Text} (noRun : 0 ∉ run) (noNull : 0 ∉ p) :
    0 ∉ printRuns flag run p := by
  induction p generalizing run with
  | nil => exact noRun
  | cons q rest ih =>
      rw [List.mem_cons, not_or] at noNull
      rw [printRuns]
      split_ifs
      · rw [List.mem_append, List.mem_append, not_or, not_or]
        exact ⟨⟨noRun, noNull_printEntity q⟩, ih (by simp) noNull.2⟩
      · have noRun' : 0 ∉ run ++ [q] := by
          rw [List.mem_append, List.mem_singleton, not_or]
          exact ⟨noRun, noNull.1⟩
        exact ih noRun' noNull.2

theorem Clean.printString (clean : s.Clean) {p : Text} (noNull : 0 ∉ p) (restricted : Bool) :
    (s.printString p restricted).Clean := by
  unfold Printer.printString
  split_ifs
  · exact clean.print (noNull_printRuns (by simp) noNull)
  · exact clean.print (noNull_printRuns (by simp) noNull)
  · exact clean.print noNull

theorem Clean.sealJustOpened (clean : s.Clean) : s.sealJustOpened.Clean := by
  unfold Printer.sealJustOpened
  split_ifs
  · have opened : Clean { s with elementJustOpened := false } := ⟨clean.buffer, clean.stack⟩
    exact opened.print (by decide)
  · exact clean

theorem Clean.newline (clean : s.Clean) (depth : Int) : (s.newline depth).Clean := by
  have line : 0 ∉ [lineFeed] := by decide
  exact (clean.print line).printSpace depth

theorem Clean.startLine (clean : s.Clean) : s.startLine.Clean := by
  unfold Printer.startLine
  split_ifs
  · exact clean.newline s.depth
  · exact clean

theorem Clean.openElement (clean : s.Clean) {name : Text} (noNull : 0 ∉ name) :
    (s.openElement name).Clean := by
  have bracket : 0 ∉ bytes ['<'] ++ name := by
    rw [List.mem_append, not_or]
    exact ⟨by decide, noNull⟩
  have pushed : Clean { s.sealJustOpened with stack := name :: s.sealJustOpened.stack } := by
    refine ⟨clean.sealJustOpened.buffer, ?_⟩
    rw [List.forall_mem_cons]
    exact ⟨noNull, clean.sealJustOpened.stack⟩
  have printed := pushed.startLine.print bracket
  exact ⟨printed.buffer, printed.stack⟩

theorem Clean.pushAttribute (clean : s.Clean) {name value : Text} (noName : 0 ∉ name)
    (noValue : 0 ∉ value) : (s.pushAttribute name value).Clean := by
  have begins : 0 ∉ byte ' ' :: (name ++ [byte '=', doubleQuote]) := by
    rw [List.mem_cons, List.mem_append, not_or, not_or]
    exact ⟨by decide, noName, by decide⟩
  have quote : 0 ∉ [doubleQuote] := by decide
  exact ((clean.print begins).printString noValue false).print quote

theorem Clean.pushAttributes (clean : s.Clean) {attributes : List (Attribute Text)}
    (noNulls : ∀ attrib ∈ attributes, 0 ∉ attrib.name ∧ 0 ∉ attrib.value) :
    (s.pushAttributes attributes).Clean := by
  induction attributes generalizing s with
  | nil => exact clean
  | cons attrib next ih =>
      rw [List.forall_mem_cons] at noNulls
      exact ih (clean.pushAttribute noNulls.1.1 noNulls.1.2) noNulls.2

theorem Clean.closeElement (clean : s.Clean) : s.closeElement.Clean := by
  have name : 0 ∉ s.stack.headD [] := by
    cases names : s.stack with
    | nil => simp
    | cons first others =>
        have noNulls := clean.stack
        rw [names, List.forall_mem_cons] at noNulls
        exact noNulls.1
  have popped : Clean { s with depth := s.depth - 1, stack := s.stack.tail } :=
    ⟨clean.buffer, fun name member => clean.stack name (List.mem_of_mem_tail member)⟩
  have endTag : 0 ∉ bytes ['<', '/'] ++ (s.stack.headD [] ++ bytes ['>']) := by
    rw [List.mem_append, List.mem_append, not_or, not_or]
    exact ⟨by decide, name, by decide⟩
  have line : 0 ∉ [lineFeed] := by decide
  have sealed : 0 ∉ bytes ['/', '>'] := by decide
  have further : ∀ {t : Printer}, t.Clean →
      Clean (
        let t := if t.textDepth = t.depth then { t with textDepth := -1 } else t
        let t := if t.depth = 0 ∧ ¬ t.compactMode then t.print [lineFeed] else t
        { t with elementJustOpened := false }) := by
    intro t clean
    have reset : Clean (if t.textDepth = t.depth then { t with textDepth := -1 } else t) :=
      Clean.ite ⟨clean.buffer, clean.stack⟩ clean
    exact ⟨((reset.print line).ite reset).buffer, ((reset.print line).ite reset).stack⟩
  exact further ((popped.print sealed).ite
    (((popped.newline (s.depth - 1)).ite popped).print endTag))

theorem Clean.pushLine (clean : s.Clean) {header value ender : Text} (noHeader : 0 ∉ header)
    (noValue : 0 ∉ value) (noEnder : 0 ∉ ender) : (s.pushLine header value ender).Clean := by
  have text : 0 ∉ header ++ (value ++ ender) := by
    rw [List.mem_append, List.mem_append, not_or, not_or]
    exact ⟨noHeader, noValue, noEnder⟩
  have started := clean.sealJustOpened.startLine
  have first : Clean { s.sealJustOpened.startLine with firstElement := false } :=
    ⟨started.buffer, started.stack⟩
  exact first.print text

theorem Clean.pushText (clean : s.Clean) {text : Text} (noNull : 0 ∉ text) (cdata : Bool) :
    (s.pushText text cdata).Clean := by
  have opened : Clean { s with textDepth := s.depth - 1 } := ⟨clean.buffer, clean.stack⟩
  have closed := opened.sealJustOpened
  unfold Printer.pushText
  simp only
  split_ifs
  · have header : 0 ∉ bytes ['<', '!', '[', 'C', 'D', 'A', 'T', 'A', '['] := by decide
    have ender : 0 ∉ bytes [']', ']', '>'] := by decide
    exact ((closed.print header).print noNull).print ender
  · exact closed.printString noNull true

theorem Clean.pushLeaf (clean : s.Clean) {node : Leaf Text} (noNull : 0 ∉ node.value) :
    (s.pushLeaf node).Clean := by
  rcases node with ⟨kind, value⟩
  cases kind with
  | text => exact clean.pushText noNull false
  | cdata => exact clean.pushText noNull true
  | comment => exact clean.pushLine (by decide) noNull (by decide)
  | declaration => exact clean.pushLine (by decide) noNull (by decide)
  | unknown => exact clean.pushLine (by decide) noNull (by decide)

theorem Clean.accept {nodes : Nodes Text} (noNulls : NoNulls nodes) (clean : s.Clean) :
    (accept Printer.visitor nodes s).Clean := by
  induction nodes generalizing s with
  | nil => exact clean
  | leaf node next ih => exact ih noNulls.2 (clean.pushLeaf noNulls.1)
  | element name attributes firstChild next ihFirst ihNext =>
      rcases noNulls with ⟨noName, noAttributes, noFirst, noNext⟩
      have opened := (clean.openElement noName).pushAttributes noAttributes
      exact ihNext noNext (ihFirst noFirst opened).closeElement

theorem clean_document (processEntities hasBOM compact : Bool) :
    ((Printer.new compact).visitEnterDocument processEntities hasBOM).Clean := by
  cases hasBOM with
  | false => exact ⟨List.not_mem_nil, fun _ member => absurd member List.not_mem_nil⟩
  | true =>
      have mark : 0 ∉ tixmlUtfLead := by decide
      exact ⟨mark, fun _ member => absurd member List.not_mem_nil⟩

end Printer

/-- However a document of less than `2 ^ 30` bytes is split into calls of `Print`, none of
them writes outside of the buffer or needs more than an `int` can count, and the string of
the printer is the document. -/
theorem cStr_printDocument {processEntities hasBOM compact : Bool} {nodes : Nodes Text}
    (noNulls : NoNulls nodes)
    (small : (printDocument processEntities hasBOM compact nodes).length + 1 < 2 ^ 30)
    (fresh : Nat → Byte) {texts : List Text}
    (whole : texts.flatten = printDocument processEntities hasBOM compact nodes) :
    ∃ buffer, (XMLPrinter.buffer fresh).bind (XMLPrinter.prints fresh texts) = some buffer ∧
      XMLPrinter.cStr buffer = printDocument processEntities hasBOM compact nodes ∧
      XMLPrinter.cStrSize buffer =
        (printDocument processEntities hasBOM compact nodes).length + 1 ∧
      buffer.mem.length ≤ max 20 (2 * XMLPrinter.cStrSize buffer) := by
  rcases XMLPrinter.holds_buffer fresh with ⟨empty, new, holds⟩
  rw [← whole] at small
  rcases holds.prints fresh small with ⟨buffer, prints, holds'⟩
  rw [whole, List.nil_append] at holds'
  have clean := Printer.Clean.accept noNulls
    (Printer.clean_document processEntities hasBOM compact)
  rw [new, Option.bind_some]
  exact ⟨buffer, prints, holds'.cStr clean.buffer, holds'.size, holds'.capacity⟩

/-- An element that is printed by three calls. -/
theorem cStr_printDocument_element :
    ∃ buffer, (XMLPrinter.buffer fun _ => 0xFF).bind (XMLPrinter.prints (fun _ => 0xFF)
        [bytes ['<', 'a'], bytes ['/', '>'], [lineFeed]]) = some buffer ∧
      XMLPrinter.cStr buffer =
        printDocument true false false (.element (bytes ['a']) [] .nil .nil) ∧
      XMLPrinter.cStrSize buffer =
        (printDocument true false false (.element (bytes ['a']) [] .nil .nil)).length + 1 ∧
      buffer.mem.length ≤ max 20 (2 * XMLPrinter.cStrSize buffer) := by
  have noNulls : NoNulls (.element (bytes ['a']) [] .nil .nil) :=
    ⟨by decide, by simp, trivial, trivial⟩
  exact cStr_printDocument noNulls (by decide) (fun _ => 0xFF) (by decide)

end SandPlatform.Xml
