import SandPlatform.Heci.Frames

/-!
# Sending fragments

A send that returns zero has written a single fragment, or nothing at all: with
more than one fragment to send, the wait between them is taken for a failure.  The
header announces the length of the message cut to nine bits, so the fragment is
the message exactly when its length fits.
-/

namespace SandPlatform.Heci

open SandPlatform.Foundation
open SandPlatform.Hardware

universe u

variable {σ : Type u} {device : Device σ} {base : Nat}

/-! ## One fragment -/

/-- Words of a message. -/
def Message.words (message : Message) (start size : Nat) : List (BitVec 32) :=
  (List.range size).map fun i => message.word (start + i)

theorem Message.words_succ (message : Message) (start size : Nat) :
    message.words start (size + 1) =
      message.word start :: message.words (start + 1) size := by
  simp [words, List.range_succ_eq_map, Nat.add_comm 1, Nat.add_assoc]

/-- Words written to the write window. -/
def Traffic.writeAll (words : List (BitVec 32)) (traffic : Traffic) : Traffic :=
  { traffic with written := traffic.written ++ words }

theorem put_ends (value : BitVec 32) (hw : Hw σ) (halt : Hw σ → Prop) :
    Exec.Ends (heciRegWrite device base hCbWw value) hw
      (fun _ next => traffic base next.log = (traffic base hw.log).writeAll [value])
      halt :=
  Exec.ends_of_eq (writeReg_apply device _ _ _ _ hw) (if_pos rfl)

/-- The data words are those of the message from `writeSize` on. -/
theorem sendWords_ends (message : Message) (writeSize left index : Nat) (hw : Hw σ)
    (halt : Hw σ → Prop) :
    Exec.Ends (sendWords device base message writeSize left index) hw
      (fun _ next => traffic base next.log = (traffic base hw.log).writeAll
        (message.words (writeSize + index) left))
      halt := by
  induction left generalizing index hw with
  | zero =>
      refine Exec.ends_of_eq (Exec.pure_apply _ _) ?_
      simp [Traffic.writeAll, Message.words]
  | succ left ih =>
      rw [sendWords]
      refine (put_ends _ hw halt).bind fun _ next written => ?_
      refine (ih (index + 1) next).mono ?_ fun _ halted => halted
      intro _ final rest
      rw [rest, written, Message.words_succ, Nat.add_comm index writeSize, Nat.add_assoc]
      simp [Traffic.writeAll]

/-- A fragment is its header and its data words. -/
theorem sendFragment_ends (message : Message) (length : Nat)
    (hostAddress devAddr : BitVec 8) (size leftSize writeSize : Nat) (hw : Hw σ)
    (halt : Hw σ → Prop) :
    Exec.Ends (sendFragment device base message length hostAddress devAddr size leftSize
        writeSize) hw
      (fun _ next => traffic base next.log = (traffic base hw.log).writeAll
        (HeciMsgHdr.build devAddr hostAddress (if 0 < leftSize then 0 else 1)
            (if 0 < leftSize then size * 4 else length - writeSize * 4) ::
          message.words writeSize size))
      halt := by
  refine (readCsr_ends hw halt).bind fun hcr first same => ?_
  refine (writeCsr_ends _ first halt).bind fun _ second same' => ?_
  refine (put_ends _ second halt).bind fun _ third written => ?_
  refine (sendWords_ends message writeSize size 0 third halt).bind fun _ fourth words => ?_
  refine (readCsr_ends fourth halt).bind fun status fifth same5 => ?_
  refine (writeCsr_ends _ fifth halt).mono ?_ fun _ halted => halted
  intro _ final same6
  rw [same6, same5, words, written, same', same]
  simp [Traffic.writeAll]

/-! ## The fragment loop -/

/-- What a loop that returns zero has written: nothing, or all the words that were
left as one fragment. -/
structure SentAtOnce (message : Message) (length : Nat) (hostAddress devAddr : BitVec 8)
    (maxBuffer leftSize : Nat) (before after : Traffic) : Prop where
  fits : leftSize ≤ maxBuffer
  nothing : leftSize = 0 → after = before
  fragment : leftSize ≠ 0 → after = before.writeAll
    (HeciMsgHdr.build devAddr hostAddress 1 length :: message.words 0 leftSize)

theorem sendLoop_ends (bound : Nat) (message : Message) (length : Nat)
    (hostAddress devAddr : BitVec 8) (maxBuffer rounds leftSize : Nat) (hw : Hw σ) :
    Exec.Ends (sendLoop device bound base message length hostAddress devAddr maxBuffer
        rounds leftSize 0) hw
      (fun status final => status = 0 → SentAtOnce message length hostAddress devAddr
        maxBuffer leftSize (traffic base hw.log) (traffic base final.log))
      (fun _ => True) := by
  cases rounds with
  | zero => exact Exec.ends_stop trivial
  | succ rounds =>
      rw [sendLoop]
      refine Exec.ends_ite (fun empty => ?_) fun nonempty => ?_
      · refine Exec.ends_of_eq (Exec.pure_apply _ _) fun _ => ⟨?_, fun _ => rfl, ?_⟩
        · rw [empty]
          exact Nat.zero_le _
        · exact fun nonempty => absurd empty nonempty
      · refine ((waitEvent_ends isDevReady_passed _ _).mono (fun _ _ same => same)
          fun _ _ => trivial).bind fun ready next same => ?_
        refine Exec.ends_ite (fun late => ?_) fun _ => ?_
        · exact Exec.ends_of_eq (Exec.pure_apply _ _)
            fun success => absurd success (by simp)
        · refine (sendFragment_ends _ _ _ _ _ _ _ next _).bind fun _ sent written => ?_
          rw [same] at written
          by_cases more : maxBuffer < leftSize
          · -- The result of the wait is never zero, so the loop is left.
            have remaining : 0 < leftSize - maxBuffer := by omega
            have raised := Exec.ends_of_yields
              (waitEvent_yields device bound heciEventTimeout
                (some (isInterruptRaised device base))) sent
            simp only [if_pos more, if_pos remaining]
            refine raised.bind fun res after outcome => ?_
            have failed : res ≠ 0 := by omega
            rw [if_pos failed]
            exact Exec.ends_of_eq (Exec.pure_apply _ _)
              fun success => absurd success (by simp)
          · simp only [if_neg more, Nat.sub_self] at written ⊢
            cases rounds with
            | zero => exact Exec.ends_stop trivial
            | succ rounds =>
                rw [sendLoop, if_pos rfl]
                refine Exec.ends_of_eq (Exec.pure_apply _ _) fun _ =>
                  ⟨Nat.le_of_not_lt more, fun empty => absurd empty nonempty, fun _ => ?_⟩
                exact written

/-! ## Whole messages -/

/-- `H_CBD` as the send reads it. -/
def depthAt (device : Device σ) (base : Nat) (state : σ) : Nat :=
  (HostCtrlReg.hCbd (device.read (.heci base) .word hCsr state).1).toNat

theorem depthAt_lt (device : Device σ) (base : Nat) (state : σ) :
    depthAt device base state < 256 :=
  (HostCtrlReg.hCbd _).isLt

/-- The fragments are the message: exactly the last one says so, each has the words
its header announces and fits the buffer, and the payloads in order are the bytes of
the message. -/
structure SentWhole (message : Message) (length depth : Nat) (fragments : List Fragment) :
    Prop where
  lastOnly : ∃ earlier last, fragments = earlier ++ [last] ∧ last.Last ∧
    ∀ fragment ∈ earlier, ¬ fragment.Last
  whole : ∀ fragment ∈ fragments, fragment.Whole HeciMsgHdr.dataWords
  fits : ∀ fragment ∈ fragments, 1 + fragment.body.length ≤ depth
  total : totalLength fragments = length
  content : fragments.flatMap Fragment.payload = (List.range length).map message.byte

@[simp]
theorem Message.length_words (message : Message) (start size : Nat) :
    (message.words start size).length = size := by
  simp [words]

theorem Message.getElem_words (message : Message) {start size i : Nat}
    (inside : i < (message.words start size).length) :
    (message.words start size)[i] = message.word (start + i) := by
  simp [words]

/-- The single fragment of a message that fits a header. -/
theorem payload_single (message : Message) {length : Nat} (small : length < 512)
    (hostAddress devAddr : BitVec 8) :
    Fragment.payload ⟨HeciMsgHdr.build devAddr hostAddress 1 length,
        message.words 0 ((length + 3) / 4)⟩ =
      (List.range length).map message.byte := by
  have announced : HeciMsgHdr.length (HeciMsgHdr.build devAddr hostAddress 1 length) =
      length := by
    rw [HeciMsgHdr.length_build]
    exact Nat.mod_eq_of_lt small
  rw [Fragment.payload, Fragment.length, announced]
  refine List.map_congr_left fun offset member => ?_
  have inside := List.mem_range.mp member
  have place : offset / 4 < (message.words 0 ((length + 3) / 4)).length := by
    rw [Message.length_words]
    omega
  rw [List.getD_eq_getElem?_getD, List.getElem?_eq_getElem place, Option.getD_some,
    Message.getElem_words, Nat.zero_add]
  rfl

/-- A send that returns zero has written nothing or one fragment. -/
theorem sent_at_once {bound length : Nat} {message : Message}
    {hostAddress devAddr : BitVec 8} {state : σ} {final : Hw σ} (nonempty : length ≠ 0)
    (returned : heciSendImpl device bound base (some message) length hostAddress devAddr
      ⟨state, []⟩ = (.ok 0, final)) :
    SentAtOnce message length hostAddress devAddr
      ((depthAt device base state + (2 ^ 32 - 1)) % 2 ^ 32) ((length + 3) % 2 ^ 32 / 4)
      Traffic.none (traffic base final.log) := by
  let hcr := (device.read (.heci base) .word hCsr state).1
  have ends : Exec.Ends (heciSendImpl device bound base (some message) length hostAddress
      devAddr) ⟨state, []⟩
      (fun status final => status = 0 → SentAtOnce message length hostAddress devAddr
        ((depthAt device base state + (2 ^ 32 - 1)) % 2 ^ 32) ((length + 3) % 2 ^ 32 / 4)
        Traffic.none (traffic base final.log)) (fun _ => True) := by
    have read : Exec.Ends (heciRegRead device base hCsr) ⟨state, []⟩
        (fun value next => value = hcr ∧ traffic base next.log = Traffic.none)
        (fun _ => True) :=
      Exec.ends_of_eq (readReg_apply device _ _ _ _)
        ⟨rfl, if_neg (by simp [hCsr, secCbRw])⟩
    simp only [heciSendImpl, if_neg nonempty]
    refine read.bind ?_
    rintro value first ⟨rfl, same⟩
    refine (writeCsr_ends _ first _).bind fun _ second same' => ?_
    rw [same] at same'
    rw [← same']
    exact sendLoop_ends bound message length hostAddress devAddr
      _ bound ((length + 3) % 2 ^ 32 / 4) second
  rw [Exec.Ends, returned] at ends
  exact ends rfl

/-- The fragment that a message makes. -/
def single (message : Message) (length size : Nat) (hostAddress devAddr : BitVec 8) :
    Fragment :=
  ⟨HeciMsgHdr.build devAddr hostAddress 1 length, message.words 0 size⟩

section Once

variable {message : Message} {length maxBuffer leftSize : Nat}
variable {hostAddress devAddr : BitVec 8} {final : Traffic}
variable (once : SentAtOnce message length hostAddress devAddr maxBuffer leftSize
  Traffic.none final)

include once in
/-- Words that parse as a message were announced in full: the first header says that
it is the last one. -/
theorem small_of_sentWhole {depth : Nat}
    (whole : SentWhole message length depth final.outgoing.reverse) : length < 512 := by
  obtain ⟨earlier, last, cut, _, pending⟩ := whole.lastOnly
  have total := whole.total
  by_cases empty : leftSize = 0
  · rw [once.nothing empty] at cut
    have impossible : ([] : List Fragment) = earlier ++ [last] := cut
    simp at impossible
  · have oldest : ∃ later body, final.outgoing =
        later ++ [⟨HeciMsgHdr.build devAddr hostAddress 1 length, body⟩] := by
      rw [once.fragment empty]
      exact Frame.parse_cons _ _
    obtain ⟨later, body, outgoing⟩ := oldest
    rw [outgoing, List.reverse_append, List.reverse_singleton,
      List.singleton_append] at cut total
    rw [cut] at total
    cases earlier with
    | nil =>
        rw [List.nil_append] at cut total
        rw [← (List.cons.inj cut).1] at total
        simp [totalLength, Fragment.length] at total
        omega
    | cons first rest =>
        have unfinished := pending first List.mem_cons_self
        rw [← (List.cons.inj cut).1] at unfinished
        exact absurd (HeciMsgHdr.messageComplete_build _ _ _ _) unfinished

include once in
/-- A length that fits the header is announced in full, and the words are one
fragment. -/
theorem sentWhole_of_small (small : length < 512) (nonempty : length ≠ 0)
    (words : leftSize = (length + 3) / 4) {depth : Nat} (room : maxBuffer < depth) :
    SentWhole message length depth final.outgoing.reverse := by
  have announced : (single message length leftSize hostAddress devAddr).length =
      length := by
    change HeciMsgHdr.length (HeciMsgHdr.build devAddr hostAddress 1 length) = length
    rw [HeciMsgHdr.length_build]
    exact Nat.mod_eq_of_lt small
  have count : (single message length leftSize hostAddress devAddr).body.length =
      leftSize := message.length_words _ _
  have complete : (single message length leftSize hostAddress devAddr).Whole
      HeciMsgHdr.dataWords := by
    rw [Frame.Whole, count, words]
    exact congrArg (fun size => (size + 3) / 4) announced.symm
  have outgoing : final.outgoing = [single message length leftSize hostAddress devAddr] := by
    rw [once.fragment (by omega)]
    exact Frame.parse_items complete
  have fits := once.fits
  rw [outgoing, List.reverse_singleton]
  constructor
  · exact ⟨[], _, rfl, HeciMsgHdr.messageComplete_build _ _ _ _, by simp⟩
  · intro fragment member
    rw [List.mem_singleton.mp member]
    exact complete
  · intro fragment member
    rw [List.mem_singleton.mp member, count]
    omega
  · simp [totalLength, announced]
  · rw [List.flatMap_singleton, words]
    exact payload_single message small hostAddress devAddr

end Once

/-- A send that returns zero has sent the message exactly when its length fits the
nine bits of a header. -/
theorem sentWhole_iff {bound length : Nat} {message : Message}
    {hostAddress devAddr : BitVec 8} {state : σ} {final : Hw σ} (nonempty : 1 ≤ length)
    (deep : 2 ≤ depthAt device base state)
    (returned : heciSendImpl device bound base (some message) length hostAddress devAddr
      ⟨state, []⟩ = (.ok 0, final)) :
    SentWhole message length (depthAt device base state)
        (traffic base final.log).outgoing.reverse ↔
      length < 512 := by
  have some : length ≠ 0 := Nat.one_le_iff_ne_zero.mp nonempty
  have once := sent_at_once some returned
  constructor
  · exact small_of_sentWhole once
  · intro small
    have words : (length + 3) % 2 ^ 32 / 4 = (length + 3) / 4 := by
      rw [Nat.mod_eq_of_lt (by omega)]
    have depth := depthAt_lt device base state
    exact sentWhole_of_small once small some words (by omega)

/-- A device that is always ready, always raises its interrupt, and has a buffer of
the given depth. -/
def steadyDevice (depth : BitVec 8) : Device Unit where
  read _ _ offset _ :=
    (if offset = hCsr then Word.setField (HostCtrlReg.setHIs 0 1) 24 depth
      else if offset = secCsrHa then 8
      else 0, ())
  write _ _ _ _ _ := ()
  mapPhysical _ _ := (some 1, ())

/-- A message of zeroes. -/
def zeroes : Message :=
  Message.ofWords fun _ => 0

/-- Twelve bytes are sent. -/
theorem sentWhole_twelve :
    ∃ final, heciSendImpl (steadyDevice 8) 2 0 (some zeroes) 12 biosFixedHostAddr
        biosSecAddr ⟨(), []⟩ = (.ok 0, final) ∧
      (SentWhole zeroes 12 (depthAt (steadyDevice 8) 0 ())
        (traffic 0 final.log).outgoing.reverse ↔ 12 < 512) := by
  have succeeds : (heciSendImpl (steadyDevice 8) 2 0 (some zeroes) 12 biosFixedHostAddr
      biosSecAddr ⟨(), []⟩).1.toOption = some 0 := by
    decide +kernel
  rcases outcome : heciSendImpl (steadyDevice 8) 2 0 (some zeroes) 12 biosFixedHostAddr
      biosSecAddr ⟨(), []⟩ with ⟨reason | status, final⟩
  · rw [outcome] at succeeds
    cases succeeds
  · rw [outcome] at succeeds
    cases succeeds
    exact ⟨final, rfl, sentWhole_iff (by decide) (by decide) outcome⟩

/-- Of 512 bytes the header announces none. -/
theorem length_cut_off :
    ¬ ∀ final, heciSendImpl (steadyDevice 130) 2 0 (some zeroes) 512 biosFixedHostAddr
        biosSecAddr ⟨(), []⟩ = (.ok 0, final) →
      SentWhole zeroes 512 (depthAt (steadyDevice 130) 0 ())
        (traffic 0 final.log).outgoing.reverse := by
  intro whole
  have succeeds : (heciSendImpl (steadyDevice 130) 2 0 (some zeroes) 512
      biosFixedHostAddr biosSecAddr ⟨(), []⟩).1.toOption = some 0 := by
    decide +kernel
  have announced : totalLength (traffic 0 (heciSendImpl (steadyDevice 130) 2 0
      (some zeroes) 512 biosFixedHostAddr biosSecAddr ⟨(), []⟩).2.log).outgoing.reverse =
        0 := by
    decide +kernel
  rcases outcome : heciSendImpl (steadyDevice 130) 2 0 (some zeroes) 512 biosFixedHostAddr
      biosSecAddr ⟨(), []⟩ with ⟨reason | status, final⟩
  · rw [outcome] at succeeds
    cases succeeds
  · rw [outcome] at succeeds announced
    cases succeeds
    have total := (whole final outcome).total
    rw [announced] at total
    cases total

end SandPlatform.Heci
