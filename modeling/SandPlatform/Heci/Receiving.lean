import SandPlatform.Heci.Frames
import SandPlatform.Heci.Mailbox

/-!
# Receiving fragments

What is stored and what is returned, in terms of the fragments that the device
delivers.  Every fragment is stored from the start of the buffer on, its words as
long as their offset is not larger than the capacity, and the length of the last
fragment is returned.
-/

namespace SandPlatform.Heci

open SandPlatform.Foundation
open SandPlatform.Hardware

universe u

/-! ## What a receive stores -/

/-- The guard of the store: zero stands for no limit. -/
def Within (bufSize index : Nat) : Prop :=
  bufSize = 0 ∨ index * 4 ≤ bufSize

/-- With a buffer given, the words within the capacity have been stored, each at
its place in its fragment, and nothing else. -/
def StoredFrom (given : Bool) (bufSize : Nat) (traffic : Traffic) : Prop :=
  ∀ index, (∃ value, (index, value) ∈ traffic.stored) ↔
    given = true ∧ Within bufSize index ∧
      ∃ fragment ∈ traffic.incoming, index < fragment.body.length

/-- The buffer holds the words of a body that are within the capacity. -/
def Holds (bufSize : Nat) (message : Option Message) (body : List (BitVec 32)) :
    Prop :=
  ∀ buffer, message = some buffer → ∀ index (inside : index < body.length),
    Within bufSize index → buffer.word index = body[index]

theorem storedFrom_none (given : Bool) (bufSize : Nat) :
    StoredFrom given bufSize Traffic.none := by
  intro index
  simp [Traffic.none, Traffic.incoming, Frame.parse, run]

section Step

variable {given : Bool} {bufSize : Nat} {traffic : Traffic} {head value : BitVec 32}
variable {body : List (BitVec 32)} {earlier : List Fragment}

/-- A header begins a fragment that has stored nothing. -/
theorem StoredFrom.begin (stored : StoredFrom given bufSize traffic)
    (settled : Frame.Settled HeciMsgHdr.dataWords traffic.incoming) (head : BitVec 32) :
    StoredFrom given bufSize (traffic.deliver head) := by
  intro index
  rw [Traffic.incoming_deliver, Frame.push_of_settled settled]
  refine (stored index).trans ?_
  simp

variable (current : traffic.incoming = ⟨head, body⟩ :: earlier)
variable (unfinished : body.length < HeciMsgHdr.dataWords head)

include current unfinished in
theorem incoming_deliver_of_unfinished (value : BitVec 32) :
    (traffic.deliver value).incoming = ⟨head, body ++ [value]⟩ :: earlier := by
  have extended : Frame.push HeciMsgHdr.dataWords (⟨head, body⟩ :: earlier) value =
      ⟨head, body ++ [value]⟩ :: earlier := Frame.push_of_unfinished unfinished _ _
  rw [Traffic.incoming_deliver, current, extended]

include current unfinished in
/-- With the next word there is one more place. -/
theorem exists_longer_iff (value : BitVec 32) (index : Nat) :
    (∃ fragment ∈ (traffic.deliver value).incoming, index < fragment.body.length) ↔
      (∃ fragment ∈ traffic.incoming, index < fragment.body.length) ∨
        index = body.length := by
  rw [incoming_deliver_of_unfinished current unfinished, current]
  simp only [List.mem_cons, exists_eq_or_imp, List.length_append, List.length_singleton,
    Nat.lt_succ_iff_lt_or_eq]
  constructor
  · rintro ((inside | last) | other)
    · exact Or.inl (Or.inl inside)
    · exact Or.inr last
    · exact Or.inl (Or.inr other)
  · rintro ((inside | other) | last)
    · exact Or.inl (Or.inl inside)
    · exact Or.inr other
    · exact Or.inl (Or.inr last)

include current unfinished in
/-- A word within the capacity is stored at its place. -/
theorem StoredFrom.store (stored : StoredFrom true bufSize traffic)
    (within : Within bufSize body.length) (value : BitVec 32) :
    StoredFrom true bufSize ((traffic.deliver value).store body.length value) := by
  intro index
  have places := exists_longer_iff current unfinished value index
  have earlierPlaces := stored index
  have written : (∃ value', (index, value') ∈
      ((traffic.deliver value).store body.length value).stored) ↔
        (∃ value', (index, value') ∈ traffic.stored) ∨ index = body.length := by
    simp [Traffic.store, Traffic.deliver, exists_or]
  have same : ((traffic.deliver value).store body.length value).incoming =
      (traffic.deliver value).incoming := rfl
  rw [written, earlierPlaces, same, places]
  constructor
  · rintro (⟨_, fits, place⟩ | last)
    · exact ⟨rfl, fits, Or.inl place⟩
    · rw [last]
      exact ⟨rfl, within, Or.inr rfl⟩
  · rintro ⟨_, fits, place | last⟩
    · exact Or.inl ⟨rfl, fits, place⟩
    · exact Or.inr last

include current unfinished in
/-- A word beyond the capacity, or without a buffer, is not. -/
theorem StoredFrom.skip (stored : StoredFrom given bufSize traffic)
    (outside : ¬ (given = true ∧ Within bufSize body.length)) (value : BitVec 32) :
    StoredFrom given bufSize (traffic.deliver value) := by
  intro index
  refine (stored index).trans ?_
  rw [exists_longer_iff current unfinished value index]
  constructor
  · rintro ⟨present, fits, place⟩
    exact ⟨present, fits, Or.inl place⟩
  · rintro ⟨present, fits, place | last⟩
    · exact ⟨present, fits, place⟩
    · rw [last] at fits
      exact absurd ⟨present, fits⟩ outside

end Step

/-- A stored word joins what the buffer holds. -/
theorem Holds.store {bufSize : Nat} {buffer : Message} {body : List (BitVec 32)}
    (holds : Holds bufSize (some buffer) body) (value : BitVec 32) :
    Holds bufSize (some (buffer.store body.length value)) (body ++ [value]) := by
  intro other same index inside within
  cases same
  by_cases last : index = body.length
  · subst last
    rw [Message.word_store_self, List.getElem_concat_length rfl]
  · have before : index < body.length := by
      rw [List.length_append, List.length_singleton] at inside
      omega
    rw [Message.word_store_of_ne _ _ last, List.getElem_append_left before]
    exact holds buffer rfl index before within

/-- A word beyond the capacity leaves the buffer as it was. -/
theorem Holds.skip {bufSize : Nat} {message : Option Message} {body : List (BitVec 32)}
    (holds : Holds bufSize message body) (outside : ¬ Within bufSize body.length)
    (value : BitVec 32) : Holds bufSize message (body ++ [value]) := by
  intro buffer given index inside within
  have before : index < body.length := by
    rw [List.length_append, List.length_singleton] at inside
    have other : index ≠ body.length := fun same => outside (same ▸ within)
    omega
  rw [List.getElem_append_left before]
  exact holds buffer given index before within

theorem holds_none (bufSize : Nat) (body : List (BitVec 32)) : Holds bufSize none body := by
  intro buffer given
  cases given

theorem holds_nil (bufSize : Nat) (message : Option Message) : Holds bufSize message [] := by
  intro buffer _ index inside
  cases inside

/-! ## A rule for receives -/

section Rule

variable {σ : Type u} {device : Device σ} {base bufSize : Nat}
variable {message : Option Message} {hw : Hw σ} {head : BitVec 32}
variable {body : List (BitVec 32)}

/-- What a receive keeps: `between` two fragments, and `within` one whose words so far
are given.  Neither depends on anything but the traffic.  Wherever the receive stops,
`halt` holds. -/
structure ReceiveInvariant (σ : Type u) (base bufSize : Nat) where
  between : Option Message → Hw σ → Prop
  within : BitVec 32 → List (BitVec 32) → Option Message → Hw σ → Prop
  halt : Hw σ → Prop
  between_same : ∀ {message hw next}, between message hw →
    traffic base next.log = traffic base hw.log → between message next
  within_same : ∀ {head body message hw next}, within head body message hw →
    traffic base next.log = traffic base hw.log → within head body message next
  between_halt : ∀ {message hw}, between message hw → halt hw
  within_halt : ∀ {head body message hw}, within head body message hw → halt hw
  /-- A header begins a fragment. -/
  begins : ∀ {message hw next head}, between message hw →
    traffic base next.log = (traffic base hw.log).deliver head →
    within head [] message next
  /-- A delivered word is stored, or not. -/
  stores : ∀ {head body message hw next value}, within head body message hw →
    body.length < HeciMsgHdr.dataWords head →
    traffic base next.log = (traffic base hw.log).deliver value →
    Exec.Ends (storeWithin bufSize message body.length value) next
      (within head (body ++ [value])) halt
  /-- A whole fragment that is not the last one joins those before it. -/
  finishes : ∀ {head body message hw}, within head body message hw →
    body.length = HeciMsgHdr.dataWords head → ¬ Fragment.Last ⟨head, body⟩ →
    between message hw

/-- The receive has ended within a whole fragment that was the last one, and the
length of that fragment was returned. -/
structure EndsWith (invariant : ReceiveInvariant σ base bufSize) (length : Option Nat)
    (received : Received) (final : Hw σ) (last : Fragment) : Prop where
  complete : last.Last
  whole : last.Whole HeciMsgHdr.dataWords
  within : invariant.within last.head last.body received.message final
  length : received.length = length.map fun _ => last.length

/-- Only whether a length is returned counts, not the length so far. -/
theorem EndsWith.of_map {invariant : ReceiveInvariant σ base bufSize}
    {length : Option Nat} {soFar : Nat → Nat} {received : Received} {final : Hw σ}
    {last : Fragment} (ends : EndsWith invariant (length.map soFar) received final last) :
    EndsWith invariant length received final last where
  complete := ends.complete
  whole := ends.whole
  within := ends.within
  length := by
    rw [ends.length, Option.map_map]
    rfl

/-- The returned length is that of the header. -/
theorem receivedLength_eq (head : BitVec 32) :
    (if HeciMsgHdr.length head < HeciMsgHdr.dataWords head * 4 then
      HeciMsgHdr.length head
    else
      HeciMsgHdr.dataWords head * 4) = HeciMsgHdr.length head := by
  rw [HeciMsgHdr.dataWords]
  split <;> omega

variable (invariant : ReceiveInvariant σ base bufSize)

/-- The words of a fragment: they complete its body, unless a wait times out or does
not end. -/
theorem receiveWords_keeps (bound left : Nat)
    (count : body.length + left = HeciMsgHdr.dataWords head)
    (reached : invariant.within head body message hw) :
    Exec.Ends (receiveWords device bound base bufSize left body.length message) hw
      (fun words final => invariant.halt final ∧
        (words.1 = true → words.2.1 = HeciMsgHdr.dataWords head ∧
          ∃ whole, whole.length = HeciMsgHdr.dataWords head ∧
            invariant.within head whole words.2.2 final))
      invariant.halt := by
  induction left generalizing body message hw with
  | zero =>
      rw [receiveWords]
      exact Exec.ends_of_eq (Exec.pure_apply _ _)
        ⟨invariant.within_halt reached, fun _ => ⟨count, body, count, reached⟩⟩
  | succ left ih =>
      rw [receiveWords]
      refine ((waitEvent_ends isDevDataReady_passed bound _).mono (fun _ _ same => same)
        fun _ same => ?_).bind fun ready next same => ?_
      · exact invariant.within_halt (invariant.within_same reached same)
      · have waited := invariant.within_same reached same
        refine Exec.ends_ite (fun late => ?_) fun _ => ?_
        · exact Exec.ends_of_eq (Exec.pure_apply _ _)
            ⟨invariant.within_halt waited, fun done => absurd done (by simp)⟩
        · refine (take_ends next _).bind fun value taken delivered => ?_
          refine (invariant.stores waited (by omega) delivered).bind
            fun stored after placed => ?_
          have rest := ih (by rw [List.length_append, List.length_singleton]; omega) placed
          rw [List.length_append, List.length_singleton] at rest
          exact rest

/-- A receive keeps the invariant from fragment to fragment; if it returns zero, it
has ended with a fragment that is the last one. -/
theorem receiveLoop_keeps (bound rounds : Nat) (length : Option Nat)
    (between : invariant.between message hw) :
    Exec.Ends (receiveLoop device bound base bufSize rounds message length) hw
      (fun received final => invariant.halt final ∧
        (received.status = 0 → ∃ last, EndsWith invariant length received final last))
      invariant.halt := by
  induction rounds generalizing message length hw with
  | zero => exact Exec.ends_stop (invariant.between_halt between)
  | succ rounds ih =>
      rw [receiveLoop]
      refine (readCsr_ends hw _).bind fun hcr first same => ?_
      refine (writeCsr_ends _ first _).bind fun _ second same' => ?_
      have prepared := invariant.between_same between (same'.trans same)
      refine ((waitEvent_ends isDevDataReady_passed bound _).mono (fun _ _ same => same)
        fun _ same => ?_).bind fun ready third same'' => ?_
      · exact invariant.between_halt (invariant.between_same prepared same)
      · have waited := invariant.between_same prepared same''
        refine Exec.ends_ite (fun late => ?_) fun _ => ?_
        · exact Exec.ends_of_eq (Exec.pure_apply _ _)
            ⟨invariant.between_halt waited, fun done => absurd done (by simp)⟩
        · refine (take_ends third _).bind fun head fourth delivered => ?_
          refine (receiveWords_keeps invariant bound _ (Nat.zero_add _)
            (invariant.begins waited delivered)).bind ?_
          rintro words fifth ⟨halted, complete⟩
          refine Exec.ends_ite (fun done => ?_) fun _ => ?_
          · obtain ⟨index, whole, count, reached⟩ := complete done
            refine (readCsr_ends fifth _).bind fun status sixth same6 => ?_
            refine (writeCsr_ends _ sixth _).bind fun _ seventh same7 => ?_
            have signalled := invariant.within_same reached (same7.trans same6)
            rw [index, receivedLength_eq]
            refine Exec.ends_ite (fun last => ?_) fun unfinished => ?_
            · exact Exec.ends_of_eq (Exec.pure_apply _ _)
                ⟨invariant.within_halt signalled,
                  fun _ => ⟨⟨head, whole⟩, last, count, signalled, rfl⟩⟩
            · refine (ih _ (invariant.finishes signalled count unfinished)).mono ?_
                fun _ halted => halted
              rintro received final ⟨halted, decided⟩
              refine ⟨halted, fun success => ?_⟩
              obtain ⟨last, ends⟩ := decided success
              exact ⟨last, ends.of_map⟩
          · exact Exec.ends_of_eq (Exec.pure_apply _ _)
              ⟨halted, fun done => absurd done (by simp)⟩

end Rule

/-! ## One fragment -/

variable {σ : Type u}

/-- A fragment is being received: its header, the words of its body so far, and the
message buffer. -/
structure AtBody (base bufSize : Nat) (given : Bool) (earlier : List Fragment)
    (head : BitVec 32) (body : List (BitVec 32)) (message : Option Message)
    (hw : Hw σ) : Prop where
  current : (traffic base hw.log).incoming = ⟨head, body⟩ :: earlier
  stored : StoredFrom given bufSize (traffic base hw.log)
  present : message.isSome = given
  holds : Holds bufSize message body

variable {device : Device σ} {base bufSize : Nat} {given : Bool}
variable {earlier : List Fragment} {head : BitVec 32} {body : List (BitVec 32)}
variable {message : Option Message} {hw : Hw σ}

/-- What has been stored at any time. -/
def Stores (base bufSize : Nat) (given : Bool) (hw : Hw σ) : Prop :=
  StoredFrom given bufSize (traffic base hw.log)

theorem stores_of_same {next : Hw σ}
    (stored : StoredFrom given bufSize (traffic base hw.log))
    (same : traffic base next.log = traffic base hw.log) :
    Stores base bufSize given next := by
  rw [Stores, same]
  exact stored

/-- The guarded store puts a delivered word in its place. -/
theorem storeWithin_ends {passed : Traffic} {value : BitVec 32}
    (current : passed.incoming = ⟨head, body⟩ :: earlier)
    (stored : StoredFrom given bufSize passed) (present : message.isSome = given)
    (holds : Holds bufSize message body)
    (unfinished : body.length < HeciMsgHdr.dataWords head)
    (delivered : traffic base hw.log = passed.deliver value) (halt : Hw σ → Prop) :
    Exec.Ends (storeWithin bufSize message body.length value) hw
      (fun next after =>
        AtBody base bufSize given earlier head (body ++ [value]) next after) halt := by
  have extended := incoming_deliver_of_unfinished current unfinished value
  cases message with
  | none =>
      have missing : given = false := present.symm
      subst missing
      have skipped := stored.skip current unfinished (by simp) value
      have unchanged : storeWithin bufSize none body.length value hw = (.ok none, hw) := by
        rw [storeWithin]
        split <;> rfl
      refine Exec.ends_of_eq unchanged ⟨?_, ?_, rfl, holds_none _ _⟩
      · rw [delivered, extended]
      · rw [delivered]
        exact skipped
  | some buffer =>
      have there : given = true := present.symm
      subst there
      by_cases within : Within bufSize body.length
      · have written : storeWithin bufSize (some buffer) body.length value hw =
            (.ok (some (buffer.store body.length value)),
              { hw with log := .store body.length value :: hw.log }) := by
          have guarded : bufSize = 0 ∨ body.length * 4 ≤ bufSize := within
          rw [storeWithin, if_pos guarded]
          rfl
        have noted : traffic base (.store body.length value :: hw.log) =
            (passed.deliver value).store body.length value :=
          congrArg (Traffic.store body.length value) delivered
        refine Exec.ends_of_eq written ⟨?_, ?_, rfl, holds.store value⟩
        · rw [noted]
          exact extended
        · rw [noted]
          exact stored.store current unfinished within value
      · have unchanged : storeWithin bufSize (some buffer) body.length value hw =
            (.ok (some buffer), hw) := by
          have guarded : ¬ (bufSize = 0 ∨ body.length * 4 ≤ bufSize) := within
          rw [storeWithin, if_neg guarded]
          rfl
        have skipped := stored.skip current unfinished (fun both => within both.2) value
        refine Exec.ends_of_eq unchanged ⟨?_, ?_, rfl, holds.skip within value⟩
        · rw [delivered, extended]
        · rw [delivered]
          exact skipped

/-! ## The fragment loop -/

/-- No fragment is being received, and none of those received was the last. -/
structure Between (base bufSize : Nat) (given : Bool) (message : Option Message)
    (hw : Hw σ) : Prop where
  settled : Frame.Settled HeciMsgHdr.dataWords (traffic base hw.log).incoming
  pending : ∀ fragment ∈ (traffic base hw.log).incoming, ¬ fragment.Last
  stored : StoredFrom given bufSize (traffic base hw.log)
  present : message.isSome = given

/-- The message was received: exactly the newest fragment is the last one, its words
are in the buffer and its length was returned. -/
structure ReceivedLast (bufSize : Nat) (length : Option Nat) (received : Received)
    (fragments : List Fragment) (last : Fragment) (earlier : List Fragment) : Prop where
  cut : fragments = last :: earlier
  complete : last.Last
  pending : ∀ fragment ∈ earlier, ¬ fragment.Last
  whole : last.Whole HeciMsgHdr.dataWords
  holds : Holds bufSize received.message last.body
  length : received.length = length.map fun _ => last.length

theorem atBody_begin {value : BitVec 32} {passed : Traffic}
    (between : Between base bufSize given message hw) (next : Hw σ)
    (same : passed = traffic base hw.log)
    (delivered : traffic base next.log = passed.deliver value) :
    AtBody base bufSize given (traffic base hw.log).incoming value [] message next where
  current := by
    rw [delivered, same, Traffic.incoming_deliver]
    exact Frame.push_of_settled between.settled value
  stored := by
    rw [delivered, same]
    exact between.stored.begin between.settled value
  present := between.present
  holds := holds_nil bufSize message

theorem Between.of_same {next : Hw σ} (between : Between base bufSize given message hw)
    (same : traffic base next.log = traffic base hw.log) :
    Between base bufSize given message next where
  settled := by
    rw [same]
    exact between.settled
  pending := by
    rw [same]
    exact between.pending
  stored := stores_of_same between.stored same
  present := between.present

theorem AtBody.of_same {next : Hw σ}
    (reached : AtBody base bufSize given earlier head body message hw)
    (same : traffic base next.log = traffic base hw.log) :
    AtBody base bufSize given earlier head body message next where
  current := by
    rw [same]
    exact reached.current
  stored := stores_of_same reached.stored same
  present := reached.present
  holds := reached.holds

/-- A whole fragment that is not the last one joins those before it. -/
theorem AtBody.between (reached : AtBody base bufSize given earlier head body message hw)
    (pending : ∀ fragment ∈ earlier, ¬ fragment.Last)
    (count : body.length = HeciMsgHdr.dataWords head)
    (unfinished : ¬ Fragment.Last ⟨head, body⟩) :
    Between base bufSize given message hw where
  settled := by
    rw [reached.current]
    rintro fragment ⟨⟩
    exact count
  pending := by
    rw [reached.current]
    simp only [List.mem_cons, forall_eq_or_imp]
    exact ⟨unfinished, pending⟩
  stored := reached.stored
  present := reached.present

/-- The invariant of the stores. -/
def storing (σ : Type u) (base bufSize : Nat) (given : Bool) :
    ReceiveInvariant σ base bufSize where
  between := Between base bufSize given
  within head body message hw := ∃ earlier, (∀ fragment ∈ earlier, ¬ fragment.Last) ∧
    AtBody base bufSize given earlier head body message hw
  halt := Stores base bufSize given
  between_same between same := between.of_same same
  within_same := by
    rintro head body message hw next ⟨earlier, pending, reached⟩ same
    exact ⟨earlier, pending, reached.of_same same⟩
  between_halt between := between.stored
  within_halt := by
    rintro head body message hw ⟨earlier, pending, reached⟩
    exact reached.stored
  begins := by
    intro message hw next head between delivered
    exact ⟨_, between.pending, atBody_begin between next rfl delivered⟩
  stores := by
    rintro head body message hw next value ⟨earlier, pending, reached⟩ unfinished delivered
    refine (storeWithin_ends reached.current reached.stored reached.present reached.holds
      unfinished delivered _).mono ?_ fun _ halted => halted
    exact fun _ _ placed => ⟨earlier, pending, placed⟩
  finishes := by
    rintro head body message hw ⟨earlier, pending, reached⟩ count unfinished
    exact reached.between pending count unfinished

/-- However a receive ends, the words within the capacity have been stored; if it
returns zero, the last fragment decides what was received. -/
theorem receiveLoop_ends (bound rounds : Nat) (length : Option Nat)
    (between : Between base bufSize given message hw) :
    Exec.Ends (receiveLoop device bound base bufSize rounds message length) hw
      (fun received final => Stores base bufSize given final ∧
        (received.status = 0 → ∃ last earlier,
          ReceivedLast bufSize length received (traffic base final.log).incoming last
            earlier))
      (Stores base bufSize given) := by
  refine (receiveLoop_keeps (storing σ base bufSize given) bound rounds length between).mono
    ?_ fun _ halted => halted
  rintro received final ⟨stores, decided⟩
  refine ⟨stores, fun success => ?_⟩
  obtain ⟨last, complete, whole, ⟨earlier, pending, reached⟩, returned⟩ := decided success
  exact ⟨last, earlier, reached.current, complete, pending, whole, reached.holds, returned⟩

/-! ## Whole messages -/

/-- The returned length is that of all payloads together, it is within the capacity,
and the buffer begins with the payloads in order. -/
structure ReceivedWhole (bufSize : Nat) (fragments : List Fragment)
    (received : Received) : Prop where
  length : received.length = some (totalLength fragments)
  fits : totalLength fragments ≤ bufSize
  content : ∀ buffer, received.message = some buffer →
    (List.range (totalLength fragments)).map buffer.byte =
      fragments.flatMap Fragment.payload

/-- A buffer that holds the body of a whole fragment within the capacity begins with
its payload. -/
theorem map_byte_eq_payload {buffer : Message} {fragment : Fragment}
    (whole : fragment.Whole HeciMsgHdr.dataWords)
    (holds : Holds bufSize (some buffer) fragment.body)
    (fits : fragment.length ≤ bufSize) :
    (List.range fragment.length).map buffer.byte = fragment.payload := by
  refine List.map_congr_left fun offset member => ?_
  have inside := List.mem_range.mp member
  have covered := fragment.length_le_dataWords
  rw [← whole] at covered
  have place : offset / 4 < fragment.body.length := by omega
  have word := holds buffer rfl (offset / 4) place (Or.inr (by omega))
  rw [Message.byte, word, List.getD_eq_getElem?_getD, List.getElem?_eq_getElem place]
  rfl

theorem between_start (base bufSize : Nat) (message : Option Message) (state : σ) :
    Between base bufSize message.isSome message ⟨state, []⟩ where
  settled := by
    rintro fragment ⟨⟩
  pending := by
    intro fragment member
    cases member
  stored := storedFrom_none _ _
  present := rfl

theorem heciReceiveImpl_ends (device : Device σ) (bound base bufSize : Nat)
    (message : Option Message) (state : σ) :
    Exec.Ends (heciReceiveImpl device bound base message (some bufSize)) ⟨state, []⟩
      (fun received final => Stores base bufSize message.isSome final ∧
        (received.status = 0 → ∃ last earlier,
          ReceivedLast bufSize (some bufSize) received (traffic base final.log).incoming
            last earlier))
      (Stores base bufSize message.isSome) :=
  receiveLoop_ends bound bound (some bufSize) (between_start base bufSize message state)

variable {bound : Nat} {state : σ} {received : Received} {final : Hw σ}

/-- A receive that returns zero has received the whole message exactly when all
fragments but the last are empty and the last one is within the capacity. -/
theorem receivedWhole_iff
    (returned : heciReceiveImpl device bound base message (some bufSize) ⟨state, []⟩ =
      (.ok received, final)) (success : received.status = 0) :
    ReceivedWhole bufSize (traffic base final.log).incoming.reverse received ↔
      ∃ earlier last, (traffic base final.log).incoming.reverse = earlier ++ [last] ∧
        (∀ fragment ∈ earlier, fragment.length = 0) ∧ last.length ≤ bufSize := by
  have ends := heciReceiveImpl_ends device bound base bufSize message state
  rw [Exec.Ends, returned] at ends
  obtain ⟨newest, before, lastly⟩ := ends.2 success
  rw [lastly.cut, List.reverse_cons]
  have single : totalLength [newest] = newest.length := by simp [totalLength]
  constructor
  · intro whole
    have total := whole.length
    have fits := whole.fits
    rw [lastly.length, Option.map_some, Option.some.injEq, totalLength_append,
      single] at total
    rw [totalLength_append, single] at fits
    have empty : totalLength before.reverse = 0 := by omega
    refine ⟨before.reverse, newest, rfl, (totalLength_eq_zero_iff _).mp empty, ?_⟩
    omega
  · rintro ⟨earlier, last, same, empty, fits⟩
    obtain ⟨sameEarlier, sameLast⟩ := List.append_inj' same rfl
    cases sameLast
    rw [← sameEarlier] at empty
    have nothing : before.reverse.flatMap Fragment.payload = [] := by
      rw [← List.length_eq_zero_iff, length_flatMap_payload, totalLength_eq_zero_iff]
      exact empty
    have total : totalLength (before.reverse ++ [newest]) = newest.length := by
      rw [totalLength_append, single, (totalLength_eq_zero_iff _).mpr empty, Nat.zero_add]
    constructor
    · rw [lastly.length, total]
      rfl
    · rw [total]
      exact fits
    · intro buffer given
      have holds := lastly.holds
      rw [given] at holds
      rw [total, List.flatMap_append, nothing, List.nil_append,
        map_byte_eq_payload lastly.whole holds fits]
      simp

/-- A mailbox with words to read. -/
def loaded (words : List (BitVec 32)) : Mailbox :=
  ⟨[], words, 0⟩

/-- A device that is only read from. -/
def readOnlyDevice : Device Mailbox :=
  mailboxDevice (fun _ => []) fun _ => true

/-- A receive of at most 508 bytes that is given the words of a mailbox. -/
def received508 (bound : Nat) (words : List (BitVec 32)) :
    Except Stop Received × Hw Mailbox :=
  heciReceiveImpl readOnlyDevice bound 0 (some (Message.ofWords fun _ => 0)) (some 508)
    ⟨loaded words, []⟩

/-- The code of a receive that returned. -/
def returnedStatus (run : Except Stop Received × Hw Mailbox) : Option Int :=
  match run.1 with
  | .ok received => some received.status
  | .error _ => none

theorem returned_of_status {run : Except Stop Received × Hw Mailbox} {status : Int}
    (known : returnedStatus run = some status) :
    ∃ received final, run = (.ok received, final) ∧ received.status = status := by
  rcases run with ⟨reason | received, final⟩
  · cases known
  · exact ⟨received, final, rfl, Option.some.inj known⟩

/-- One fragment of four bytes. -/
theorem receivedWhole_single :
    ∃ received final, received508 1 [replyHead 4, 7] = (.ok received, final) ∧
      received.status = 0 ∧
      (ReceivedWhole 508 (traffic 0 final.log).incoming.reverse received ↔
        ∃ earlier last, (traffic 0 final.log).incoming.reverse = earlier ++ [last] ∧
          (∀ fragment ∈ earlier, fragment.length = 0) ∧ last.length ≤ 508) := by
  have succeeds : returnedStatus (received508 1 [replyHead 4, 7]) = some 0 := by
    decide +kernel
  obtain ⟨received, final, returned, success⟩ := returned_of_status succeeds
  exact ⟨received, final, returned, success, receivedWhole_iff returned success⟩

/-- The header of a fragment that others follow. -/
def moreHead (size : Nat) : BitVec 32 :=
  HeciMsgHdr.build biosFixedHostAddr biosSecAddr 0 size

/-- Two fragments of four bytes each, of which only the second is received. -/
theorem first_fragment_lost :
    ¬ ∀ received final,
      received508 2 [moreHead 4, 7, replyHead 4, 8] = (.ok received, final) →
      received.status = 0 →
        ReceivedWhole 508 (traffic 0 final.log).incoming.reverse received := by
  intro whole
  have succeeds :
      returnedStatus (received508 2 [moreHead 4, 7, replyHead 4, 8]) = some 0 := by
    decide +kernel
  have reported : totalLength (traffic 0
      (received508 2 [moreHead 4, 7, replyHead 4, 8]).2.log).incoming.reverse = 8 ∧
        (received508 2 [moreHead 4, 7, replyHead 4, 8]).1.toOption.bind
          Received.length = some 4 := by
    decide +kernel
  obtain ⟨received, final, returned, success⟩ := returned_of_status succeeds
  have length := (whole received final returned success).length
  rw [returned] at reported
  rw [reported.1] at length
  have same : some 4 = some 8 := reported.2.symm.trans length
  cases same

/-! ## Bounds -/

/-- Every stored word lies within the buffer exactly when there is no buffer or no
fragment has delivered more words than fit. -/
theorem stores_within_iff (device : Device σ) (bound base bufSize : Nat)
    (message : Option Message) (state : σ) :
    (∀ index value, Access.store index value ∈
        (heciReceiveImpl device bound base message (some bufSize) ⟨state, []⟩).2.log →
      4 * index + 4 ≤ bufSize) ↔
    message = none ∨ ∀ fragment ∈ (traffic base
        (heciReceiveImpl device bound base message (some bufSize)
          ⟨state, []⟩).2.log).incoming, fragment.body.length ≤ bufSize / 4 := by
  have stored : Stores base bufSize message.isSome
      (heciReceiveImpl device bound base message (some bufSize) ⟨state, []⟩).2 :=
    (heciReceiveImpl_ends device bound base bufSize message state).always
      (fun _ _ reached => reached.1) fun _ halted => halted
  rw [Stores] at stored
  constructor
  · intro inside
    by_cases given : message = none
    · exact Or.inl given
    · right
      intro fragment member
      refine Nat.le_of_not_lt fun long => ?_
      -- The first word that does not fit passes the guard.
      have place : ∃ value, (bufSize / 4, value) ∈ (traffic base
          (heciReceiveImpl device bound base message (some bufSize)
            ⟨state, []⟩).2.log).stored :=
        (stored _).mpr ⟨Option.isSome_iff_ne_none.mpr given,
          Or.inr (Nat.div_mul_le_self _ _), fragment, member, long⟩
      obtain ⟨value, there⟩ := place
      have fits := inside _ _ ((mem_stored_iff base).mp there)
      omega
  · intro short index value there
    obtain ⟨given, _, fragment, member, place⟩ :=
      (stored index).mp ⟨value, (mem_stored_iff base).mpr there⟩
    rcases short with absent | short
    · rw [absent] at given
      cases given
    · have most := short fragment member
      omega

/-- A reply of 511 bytes to a buffer of 508. -/
theorem last_word_outside :
    ¬ ∀ index value, Access.store index value ∈
        (heciReceiveImpl readOnlyDevice 1 0 (some (Message.ofWords fun _ => 0))
          (some dataBufferSize)
          ⟨loaded (replyHead 511 :: List.replicate 128 0), []⟩).2.log →
      4 * index + 4 ≤ dataBufferSize := by
  intro inside
  have fits := inside 127 0 (by decide +kernel)
  revert fits
  decide

end SandPlatform.Heci
