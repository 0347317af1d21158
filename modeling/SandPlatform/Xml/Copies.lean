import Mathlib.Logic.Function.Basic
import SandPlatform.Foundation.Run
import SandPlatform.Xml.Reading

/-!
# Strings that are set

A string of a node points into a text that it does not own, or to a copy that was made
for it and that it deletes when it is reset.  `SetStr` resets the string before it looks
at the new text, so the copy that a string owns is not a text it can be set to.
-/

namespace SandPlatform.Xml

open SandPlatform.Foundation
open Function (update)

universe u v

/-- A pointer to the beginning of a string: into a text that is never deleted, or to an
array. -/
inductive Start (κ : Type v)
  | null
  | outside (text : Text)
  | array (id : κ)

/-- A `StrPair`, with the one flag that has to do with its memory. -/
structure OwningPair (κ : Type v) where
  start : Start κ
  needsDelete : Bool

/-- All strings, and what is in the arrays that were allocated and not deleted. -/
structure StringMemory (ι : Type u) (κ : Type v) where
  pairs : ι → OwningPair κ
  arrays : κ → Option Text

/-- What is done to strings.  `setStr` has a text from elsewhere, `copyStr` what `GetStr`
of a string gave, both with the answer of `new`; `assign` is the assignment of a whole
`StrPair`. -/
inductive StringCall (ι : Type u) (κ : Type v)
  | reset (pair : ι)
  | set (pair : ι) (text : Text)
  | setStr (pair : ι) (text : Text) (answer : Option κ)
  | copyStr (pair other : ι) (answer : Option κ)
  | assign (pair other : ι)

variable {ι : Type u} {κ : Type v}

namespace StringMemory

/-- Where pairs are constructed. -/
def start : StringMemory ι κ :=
  ⟨fun _ => ⟨.null, false⟩, fun _ => none⟩

/-- The characters behind a pointer; `none` if there are none, or none any more. -/
def read (s : StringMemory ι κ) : Start κ → Option Text
  | .null => none
  | .outside text => some text
  | .array id => s.arrays id

section Arrays

variable [DecidableEq κ]

/-- Only pointers to an array see what it is changed to. -/
theorem read_update (s : StringMemory ι κ) {id : κ} {start : Start κ} (apart : start ≠ .array id)
    (contents : Option Text) :
    { s with arrays := update s.arrays id contents }.read start = s.read start := by
  cases start with
  | array id' => exact Function.update_of_ne (fun same => apart (congrArg Start.array same)) _ _
  | _ => rfl

/-- `delete []`; `none` is a pointer that `new` did not give, or that was deleted before. -/
def delete (s : StringMemory ι κ) : Start κ → Option (StringMemory ι κ)
  | .null => some s
  | .outside _ => none
  | .array id =>
      if (s.arrays id).isSome then some { s with arrays := update s.arrays id none } else none

end Arrays

variable [DecidableEq ι]

/-- A string is assigned. -/
def put (pair : ι) (value : OwningPair κ) (s : StringMemory ι κ) : StringMemory ι κ :=
  { s with pairs := update s.pairs pair value }

@[simp]
theorem read_put (s : StringMemory ι κ) (pair : ι) (value : OwningPair κ) (start : Start κ) :
    (s.put pair value).read start = s.read start := by
  cases start <;> rfl

variable [DecidableEq κ]

/-- `Reset`, and the destructor. -/
def reset (pair : ι) (s : StringMemory ι κ) : Option (StringMemory ι κ) :=
  (if (s.pairs pair).needsDelete then s.delete (s.pairs pair).start else some s).map
    (put pair ⟨.null, false⟩)

/-- `Set`, and `SetInternedStr`. -/
def set (pair : ι) (text : Text) (s : StringMemory ι κ) : Option (StringMemory ι κ) :=
  (s.reset pair).map (put pair ⟨.outside text, false⟩)

/-- The array that `new` gives, with a copy of a text. -/
def copyTo (pair : ι) (text : Text) (s : StringMemory ι κ) : Option κ → StringMemory ι κ
  | none => s
  | some id => put pair ⟨.array id, true⟩ { s with arrays := update s.arrays id (some text) }

/-- `none` is a text that cannot be read. -/
def setStr (pair : ι) (str : Start κ) (answer : Option κ) (s : StringMemory ι κ) :
    Option (StringMemory ι κ) :=
  -- the pointer is from before the reset, and what it points to is read behind it
  (s.reset pair).bind fun s =>
    (s.read str).map fun text => s.copyTo pair text answer

/-- A call on strings; `none` is an array that is deleted twice or read after it was
deleted. -/
def step (s : StringMemory ι κ) : StringCall ι κ → Option (StringMemory ι κ)
  | .reset pair => s.reset pair
  | .set pair text => s.set pair text
  | .setStr pair text answer => s.setStr pair (.outside text) answer
  | .copyStr pair other answer => s.setStr pair (s.pairs other).start answer
  | .assign pair other => some (s.put pair (s.pairs other))

end StringMemory

/-! ## The values -/

/-- What a string is, and the array that it owns. -/
structure StringValue (κ : Type v) where
  value : Option Text
  copied : Option κ

namespace StringValue

/-- A string that is set to nothing. -/
def null : StringValue κ :=
  ⟨none, none⟩

/-- A string of its own, if `new` gave an array for it. -/
def copy (value : Option Text) : Option κ → StringValue κ
  | none => null
  | some id => ⟨value, some id⟩

/-- What a call is for, in terms of the values. -/
def step [DecidableEq ι] (values : ι → StringValue κ) : StringCall ι κ → ι → StringValue κ
  | .reset pair => update values pair null
  | .set pair text => update values pair ⟨some text, none⟩
  | .setStr pair text answer => update values pair (copy (some text) answer)
  | .copyStr pair other answer => update values pair (copy (values other).value answer)
  | .assign pair other => update values pair (values other)

/-- An array that `new` gives is owned by no other string, and only strings without a
copy of their own are assigned. -/
def Promised (values : ι → StringValue κ) : StringCall ι κ → Prop
  | .reset _ => True
  | .set _ _ => True
  | .setStr pair _ answer => ∀ id ∈ answer, ∀ other ≠ pair, (values other).copied ≠ some id
  | .copyStr pair _ answer => ∀ id ∈ answer, ∀ other ≠ pair, (values other).copied ≠ some id
  | .assign pair other => (values pair).copied = none ∧ (values other).copied = none

/-- No string is set to its own copy, or to what is not there. -/
def Safe (values : ι → StringValue κ) : StringCall ι κ → Prop
  | .copyStr pair other _ =>
      (values other).value ≠ none ∧ (pair = other → (values pair).copied = none)
  | _ => True

end StringValue

open StringValue (null copy)

/-! ## The memory has the values -/

/-- Every string reads as its value, and the arrays are those that are owned, each by one
string. -/
structure HasValues (s : StringMemory ι κ) (values : ι → StringValue κ) : Prop where
  value : ∀ pair, s.read (s.pairs pair).start = (values pair).value
  flag : ∀ pair, (s.pairs pair).needsDelete = (values pair).copied.isSome
  array : ∀ pair id, (s.pairs pair).start = .array id ↔ (values pair).copied = some id
  live : ∀ id, (s.arrays id).isSome ↔ ∃ pair, (values pair).copied = some id
  apart : ∀ pair other id, (values pair).copied = some id →
    (values other).copied = some id → pair = other

namespace HasValues

variable {s : StringMemory ι κ} {values : ι → StringValue κ}

theorem start : HasValues (StringMemory.start : StringMemory ι κ) fun _ => null :=
  ⟨fun _ => rfl, fun _ => rfl, fun _ _ => by simp [StringMemory.start, null],
    fun _ => by simp [StringMemory.start, null], fun _ _ _ owned => by cases owned⟩

variable [DecidableEq ι]

/-- A string that owns nothing is given another text that is not deleted. -/
theorem put (holds : HasValues s values) {pair : ι} {start : Start κ} {text : Option Text}
    (bare : (values pair).copied = none) (outside : ∀ id, start ≠ .array id)
    (reads : s.read start = text) :
    HasValues (s.put pair ⟨start, false⟩) (update values pair ⟨text, none⟩) := by
  have owned (other : ι) (id : κ) :
      (update values pair ⟨text, none⟩ other).copied = some id ↔
        (values other).copied = some id := by
    by_cases same : other = pair
    · subst same
      simp [bare]
    · rw [Function.update_of_ne same]
  refine ⟨fun other => ?_, fun other => ?_, fun other id => ?_, fun id => ?_, ?_⟩
  · by_cases same : other = pair
    · subst same
      simpa [StringMemory.put, StringMemory.read] using reads
    · simpa [StringMemory.put, StringMemory.read, same] using holds.value other
  · by_cases same : other = pair
    · subst same
      simp [StringMemory.put]
    · simpa [StringMemory.put, same] using holds.flag other
  · rw [owned]
    by_cases same : other = pair
    · subst same
      simp [StringMemory.put, outside id, bare]
    · simpa [StringMemory.put, same] using holds.array other id
  · simp only [owned]
    exact holds.live id
  · intro first second id
    rw [owned, owned]
    exact holds.apart first second id

variable [DecidableEq κ]

/-- The copy that a string owns is deleted. -/
theorem drop (holds : HasValues s values) {pair : ι} {id : κ}
    (owned : (values pair).copied = some id) :
    HasValues (StringMemory.put pair ⟨.null, false⟩
      { s with arrays := update s.arrays id none }) (update values pair null) := by
  have others {other : ι} (apart : other ≠ pair) : (values other).copied ≠ some id := by
    intro twice
    exact apart (holds.apart other pair id twice owned)
  have kept (other : ι) (id' : κ) : (update values pair null other).copied = some id' ↔
      id' ≠ id ∧ (values other).copied = some id' := by
    by_cases same : other = pair
    · subst same
      rw [Function.update_self, owned]
      simp only [null, Option.some.injEq, reduceCtorEq, false_iff, not_and]
      exact fun differs twice => differs twice.symm
    · rw [Function.update_of_ne same]
      refine ⟨fun other' => ⟨?_, other'⟩, fun both => both.2⟩
      rintro rfl
      exact others same other'
  refine ⟨fun other => ?_, fun other => ?_, fun other id' => ?_, fun id' => ?_, ?_⟩
  · by_cases same : other = pair
    · subst same
      simp [StringMemory.put, StringMemory.read, null]
    · rw [Function.update_of_ne same, ← holds.value other]
      have start : (StringMemory.put pair ⟨.null, false⟩
          { s with arrays := update s.arrays id none }).pairs other = s.pairs other :=
        Function.update_of_ne same _ _
      rw [start, StringMemory.read_put]
      exact s.read_update (fun at' => others same ((holds.array other id).mp at')) none
  · by_cases same : other = pair
    · subst same
      simp [StringMemory.put, null]
    · simpa [StringMemory.put, same] using holds.flag other
  · rw [kept]
    by_cases same : other = pair
    · subst same
      simp only [StringMemory.put, Function.update_self, owned, Option.some.injEq, reduceCtorEq,
        false_iff, not_and]
      exact fun differs twice => differs twice.symm
    · simp only [StringMemory.put, Function.update_of_ne same, holds.array other id']
      refine ⟨fun owns => ⟨?_, owns⟩, fun both => both.2⟩
      rintro rfl
      exact others same owns
  · simp only [kept, StringMemory.put]
    by_cases same : id' = id
    · subst same
      simp
    · simp [same, holds.live id']
  · intro first second id'
    rw [kept, kept]
    exact fun one two => holds.apart first second id' one.2 two.2

/-- What a pointer reads after a string was reset. -/
def readAfter (s : StringMemory ι κ) (value : StringValue κ) (start : Start κ) : Option Text :=
  match start, value.copied with
  | .array id, some copied => if id = copied then none else s.arrays id
  | start, _ => s.read start

theorem reset (holds : HasValues s values) (pair : ι) :
    ∃ s', s.reset pair = some s' ∧ HasValues s' (update values pair null) ∧
      ∀ start, s'.read start = readAfter s (values pair) start := by
  have flag := holds.flag pair
  cases owned : (values pair).copied with
  | none =>
      rw [owned] at flag
      refine ⟨s.put pair ⟨.null, false⟩, ?_, ?_, fun start => ?_⟩
      · rw [StringMemory.reset, flag]
        rfl
      · exact holds.put owned (fun id same => by cases same) rfl
      · cases start <;> simp [readAfter, owned, StringMemory.read, StringMemory.put]
  | some id =>
      rw [owned] at flag
      have at' := (holds.array pair id).mpr owned
      have live := (holds.live id).mpr ⟨pair, owned⟩
      refine ⟨_, ?_, holds.drop owned, fun start => ?_⟩
      · rw [StringMemory.reset, flag, at']
        simp [StringMemory.delete, live]
      · cases start with
        | array id' =>
            simp only [readAfter, owned, StringMemory.read, StringMemory.put]
            exact Function.update_apply _ _ _ _
        | _ => simp [readAfter, StringMemory.read]

/-- A string that was reset gets the array that `new` gave. -/
theorem copyTo (holds : HasValues s values) {pair : ι} (cleared : values pair = null)
    (text : Text) {answer : Option κ}
    (fresh : ∀ id ∈ answer, ∀ other, (values other).copied ≠ some id) :
    HasValues (s.copyTo pair text answer) (update values pair (copy (some text) answer)) := by
  cases answer with
  | none =>
      rw [copy, ← cleared, Function.update_eq_self]
      exact holds
  | some id =>
      have unused := fresh id rfl
      have owned (other : ι) (id' : κ) :
          (update values pair (copy (some text) (some id)) other).copied = some id' ↔
            other = pair ∧ id' = id ∨ other ≠ pair ∧ (values other).copied = some id' := by
        by_cases same : other = pair
        · subst same
          simp [copy, eq_comm]
        · simp [same]
      refine ⟨fun other => ?_, fun other => ?_, fun other id' => ?_, fun id' => ?_, ?_⟩
      · by_cases same : other = pair
        · subst same
          simp [StringMemory.copyTo, StringMemory.put, StringMemory.read, copy]
        · rw [Function.update_of_ne same, ← holds.value other]
          have start : (s.copyTo pair text (some id)).pairs other = s.pairs other :=
            Function.update_of_ne same _ _
          rw [start, StringMemory.copyTo, StringMemory.read_put]
          exact s.read_update (fun at' => unused other ((holds.array other id).mp at')) _
      · by_cases same : other = pair
        · subst same
          simp [StringMemory.copyTo, StringMemory.put, copy]
        · simpa [StringMemory.copyTo, StringMemory.put, same] using holds.flag other
      · rw [owned]
        by_cases same : other = pair
        · subst same
          simp [StringMemory.copyTo, StringMemory.put, eq_comm]
        · simpa [StringMemory.copyTo, StringMemory.put, same] using holds.array other id'
      · simp only [owned]
        by_cases same : id' = id
        · subst same
          simp [StringMemory.copyTo, StringMemory.put]
        · have apart : (∃ other, other ≠ pair ∧ (values other).copied = some id') ↔
              ∃ other, (values other).copied = some id' := by
            refine ⟨fun ⟨other, _, owns⟩ => ⟨other, owns⟩, fun ⟨other, owns⟩ => ⟨other, ?_, owns⟩⟩
            rintro rfl
            rw [cleared] at owns
            cases owns
          simp [StringMemory.copyTo, StringMemory.put, same, holds.live id', apart]
      · intro first second id'
        rw [owned, owned]
        rintro (⟨rfl, rfl⟩ | ⟨_, one⟩) (⟨rfl, again⟩ | ⟨_, two⟩)
        · rfl
        · exact absurd two (unused second)
        · subst again
          exact absurd one (unused first)
        · exact holds.apart first second id' one two

theorem setStr (holds : HasValues s values) {pair : ι} {str : Start κ} {text : Text}
    (reads : readAfter s (values pair) str = some text) {answer : Option κ}
    (fresh : ∀ id ∈ answer, ∀ other ≠ pair, (values other).copied ≠ some id) :
    ∃ s', s.setStr pair str answer = some s' ∧
      HasValues s' (update values pair (copy (some text) answer)) := by
  rcases holds.reset pair with ⟨s', done, cleared, after⟩
  have fresh' : ∀ id ∈ answer, ∀ other, (update values pair null other).copied ≠ some id := by
    intro id given other
    by_cases same : other = pair
    · subst same
      simp [null]
    · rw [Function.update_of_ne same]
      exact fresh id given other same
  refine ⟨s'.copyTo pair text answer, ?_, ?_⟩
  · rw [StringMemory.setStr, done, Option.bind_some, after, reads]
    rfl
  · have copied := cleared.copyTo (Function.update_self pair null values) text fresh'
    rwa [Function.update_idem] at copied

theorem setStr_unread (holds : HasValues s values) {pair : ι} {str : Start κ}
    (reads : readAfter s (values pair) str = none) (answer : Option κ) :
    s.setStr pair str answer = none := by
  rcases holds.reset pair with ⟨s', done, _, after⟩
  rw [StringMemory.setStr, done, Option.bind_some, after, reads]
  rfl

/-- The text of a string after another one was reset, or the string itself. -/
theorem readAfter_start (holds : HasValues s values) (pair other : ι) :
    readAfter s (values pair) (s.pairs other).start =
      if pair = other ∧ (values pair).copied ≠ none then none else (values other).value := by
  have value := holds.value other
  cases at' : (s.pairs other).start with
  | array id =>
      have owns := (holds.array other id).mp at'
      cases owned : (values pair).copied with
      | none =>
          rw [if_neg (by simp), ← value, at']
          simp [readAfter, owned]
      | some id' =>
          rw [at'] at value
          by_cases same : pair = other
          · subst same
            rw [owned] at owns
            cases owns
            simp [readAfter, owned]
          · have differs : id ≠ id' := by
              rintro rfl
              exact same (holds.apart pair other id owned owns)
            rw [if_neg (fun both => same both.1), ← value]
            simp [readAfter, owned, differs, StringMemory.read]
  | _ =>
      have bare : pair = other → (values pair).copied = none := by
        rintro rfl
        rw [Option.eq_none_iff_forall_ne_some]
        intro id owned
        rw [(holds.array pair id).mpr owned] at at'
        cases at'
      rw [if_neg (fun both => both.2 (bare both.1)), ← value, at']
      simp [readAfter]

/-- A safe call is done, and does to the values what it says. -/
theorem step (holds : HasValues s values) {call : StringCall ι κ}
    (promised : StringValue.Promised values call) (safe : StringValue.Safe values call) :
    ∃ s', s.step call = some s' ∧ HasValues s' (StringValue.step values call) := by
  cases call with
  | reset pair =>
      rcases holds.reset pair with ⟨s', done, cleared, _⟩
      exact ⟨s', done, cleared⟩
  | set pair text =>
      rcases holds.reset pair with ⟨s', done, cleared, _⟩
      have bare : (update values pair null pair).copied = none := by simp [null]
      have given : HasValues (s'.put pair ⟨.outside text, false⟩)
          (update (update values pair null) pair ⟨some text, none⟩) :=
        cleared.put bare (fun id same => by cases same) rfl
      rw [Function.update_idem] at given
      exact ⟨_, by rw [StringMemory.step, StringMemory.set, done]; rfl, given⟩
  | setStr pair text answer =>
      have reads : readAfter s (values pair) (.outside text) = some text := by
        cases owned : (values pair).copied <;> simp [readAfter, StringMemory.read]
      exact holds.setStr reads promised
  | copyStr pair other answer =>
      rcases Option.ne_none_iff_exists'.mp safe.1 with ⟨text, value⟩
      have reads : readAfter s (values pair) (s.pairs other).start = some text := by
        rw [holds.readAfter_start pair other,
          if_neg (fun both => both.2 (safe.2 both.1)), value]
      have set := holds.setStr reads promised
      rwa [← value] at set
  | assign pair other =>
      have outside (id : κ) : (s.pairs other).start ≠ .array id := by
        intro same
        have owned := (holds.array other id).mp same
        rw [promised.2] at owned
        cases owned
      have flag : (s.pairs other).needsDelete = false := by
        rw [holds.flag other, promised.2]
        rfl
      have pair' : (⟨(s.pairs other).start, false⟩ : OwningPair κ) = s.pairs other := by
        rw [← flag]
      have value' : (⟨(values other).value, none⟩ : StringValue κ) = values other := by
        rw [← promised.2]
      have given := holds.put promised.1 outside (holds.value other)
      rw [pair', value'] at given
      exact ⟨_, rfl, given⟩

/-- A call that is not safe reads what is not there. -/
theorem step_unsafe (holds : HasValues s values) {call : StringCall ι κ}
    (broken : ¬ StringValue.Safe values call) : s.step call = none := by
  cases call with
  | copyStr pair other answer =>
      refine holds.setStr_unread ?_ answer
      rw [holds.readAfter_start pair other]
      simp only [StringValue.Safe, not_and_or, not_not, Classical.not_imp] at broken
      rcases broken with absent | both
      · rw [absent, ite_self]
      · exact if_pos both
  | _ => exact absurd trivial broken

end HasValues

/-! ## Runs -/

section Runs

variable [DecidableEq ι] [DecidableEq κ] {calls : List (StringCall ι κ)}

/-- A run in which strings are set, reset and assigned reads no text that was deleted and
deletes none twice exactly if no string is set to its own copy or to what is not there.
Then every string reads as what it was last set to, and every array is the copy of one
string. -/
theorem run_strings (promised : Along StringValue.step StringValue.Promised (fun _ => null) calls) :
    ((∃ s, calls.foldlM StringMemory.step StringMemory.start = some s) ↔
        Along StringValue.step StringValue.Safe (fun _ => null) calls) ∧
      ∀ s, calls.foldlM StringMemory.step StringMemory.start = some s →
        (∀ pair, s.read (s.pairs pair).start =
          (run StringValue.step (fun _ => null) calls pair).value) ∧
        ∀ id, (s.arrays id).isSome → ∃! pair, s.pairs pair = ⟨.array id, true⟩ := by
  rcases foldlM_iff_along (fun _ _ _ holds => holds.step)
    (fun _ _ _ holds _ => holds.step_unsafe) HasValues.start promised with
    ⟨taken, reached⟩
  refine ⟨taken, fun s done => ?_⟩
  have holds := reached s done
  refine ⟨holds.value, fun id live => ?_⟩
  rcases (holds.live id).mp live with ⟨pair, owned⟩
  have at' := (holds.array pair id).mpr owned
  have flag := holds.flag pair
  rw [owned] at flag
  refine ⟨pair, ?_, fun other same => ?_⟩
  · change (⟨(s.pairs pair).start, (s.pairs pair).needsDelete⟩ : OwningPair κ) = _
    rw [at', flag]
    rfl
  · have owns := (holds.array other id).mp (by rw [same])
    exact holds.apart other pair id owns owned

/-- A copy of a copy is there after the first one was deleted.  A string that is set to
its own copy is not. -/
theorem run_strings_own :
    (∃ s : StringMemory Nat Nat,
      [.setStr 0 (bytes ['a']) (some 0), .copyStr 1 0 (some 1), .reset 0].foldlM
        StringMemory.step StringMemory.start = some s ∧
          s.read (s.pairs 1).start = some (bytes ['a'])) ∧
      ¬ ∃ s : StringMemory Nat Nat,
        [.setStr 0 (bytes ['a']) (some 0), .copyStr 0 0 (some 1)].foldlM
          StringMemory.step StringMemory.start = some s := by
  constructor
  · have promised : Along StringValue.step StringValue.Promised (fun _ => null)
        ([.setStr 0 (bytes ['a']) (some 0), .copyStr 1 0 (some 1), .reset 0] :
          List (StringCall Nat Nat)) := by
      simp only [Along, StringValue.Promised, StringValue.step, null, copy, Function.update_apply]
      refine ⟨by simp, ?_, trivial, trivial⟩
      rintro id given other apart
      cases given
      split_ifs <;> simp
    have safe : Along StringValue.step StringValue.Safe (fun _ => null)
        ([.setStr 0 (bytes ['a']) (some 0), .copyStr 1 0 (some 1), .reset 0] :
          List (StringCall Nat Nat)) := by
      simp [Along, StringValue.Safe, StringValue.step, null, copy]
    rcases run_strings promised with ⟨taken, reached⟩
    rcases taken.mpr safe with ⟨s, done⟩
    exact ⟨s, done, ((reached s done).1 1).trans rfl⟩
  · have promised : Along StringValue.step StringValue.Promised (fun _ => null)
        ([.setStr 0 (bytes ['a']) (some 0), .copyStr 0 0 (some 1)] :
          List (StringCall Nat Nat)) := by
      simp only [Along, StringValue.Promised, StringValue.step, null, copy, Function.update_apply]
      refine ⟨by simp, ?_, trivial⟩
      rintro id given other apart
      cases given
      split_ifs <;> simp
    rw [(run_strings promised).1]
    simp [Along, StringValue.Safe, StringValue.step, null, copy]

end Runs

end SandPlatform.Xml
