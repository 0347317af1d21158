import SandPlatform.Heci.Accesses
import SandPlatform.Heci.Progress
import SandPlatform.Heci.Receiving
import SandPlatform.Heci.Retrieval
import SandPlatform.Heci.Sending

/-!
# What an exchange leaves in the buffer

Every fragment of a reply is stored from the start of the buffer on.  After an
exchange that succeeds, the buffer is therefore the request with the fragments of
the reply laid over it, one after the other.
-/

namespace SandPlatform.Heci

open SandPlatform.Foundation
open SandPlatform.Hardware

universe u

/-! ## Fragments over a buffer -/

namespace Message

/-- A fragment over a buffer, from the start of both. -/
def lay (message : Message) (fragment : Fragment) : Message :=
  storeAll 0 fragment.body message

/-- Fragments over a buffer, the oldest first. -/
def layAll (message : Message) (fragments : List Fragment) : Message :=
  fragments.foldl lay message

theorem storeAll_snoc (index : Nat) (values : List (BitVec 32)) (value : BitVec 32)
    (message : Message) :
    storeAll index (values ++ [value]) message =
      (storeAll index values message).store (index + values.length) value := by
  induction values generalizing index message with
  | nil => rfl
  | cons first rest ih =>
      rw [List.cons_append, storeAll, ih, storeAll, List.length_cons, Nat.add_right_comm,
        Nat.add_assoc]

theorem layAll_snoc (message : Message) (fragments : List Fragment) (fragment : Fragment) :
    message.layAll (fragments ++ [fragment]) = (message.layAll fragments).lay fragment :=
  List.foldl_append

@[simp]
theorem layAll_singleton (message : Message) (fragment : Fragment) :
    message.layAll [fragment] = message.lay fragment :=
  rfl

/-- The buffer begins with the words of the fragment. -/
theorem holds_lay (bufSize : Nat) (message : Message) (fragment : Fragment) :
    Holds bufSize (some (message.lay fragment)) fragment.body := by
  intro buffer same index inside _
  cases same
  have word := word_storeAll 0 inside message
  rw [Nat.zero_add] at word
  exact word

end Message

/-! ## Receiving -/

variable {σ : Type u} {device : Device σ} {base bufSize : Nat} {request : Message}

/-- Every word of a fragment fits a buffer of this capacity. -/
def Roomy (bufSize : Nat) : Prop :=
  ∀ index, index < 128 → Within bufSize index

theorem roomy_dataBufferSize : Roomy dataBufferSize := by
  intro index inside
  have capacity : dataBufferSize = 508 := rfl
  exact Or.inr (by omega)

theorem dataWords_le (head : BitVec 32) : HeciMsgHdr.dataWords head ≤ 128 := by
  have small := HeciMsgHdr.length_lt head
  rw [HeciMsgHdr.dataWords]
  omega

/-- A fragment is being received: the words of its body so far are over those
before it. -/
structure LaidSoFar (base : Nat) (request : Message) (earlier : List Fragment)
    (head : BitVec 32) (body : List (BitVec 32)) (message : Option Message) (hw : Hw σ) :
    Prop where
  current : (traffic base hw.log).incoming = ⟨head, body⟩ :: earlier
  laid : message = some ((request.layAll earlier.reverse).lay ⟨head, body⟩)

/-- Whole fragments are in the buffer, one over the other. -/
structure LaidOver (base : Nat) (request : Message) (message : Option Message)
    (hw : Hw σ) : Prop where
  whole : ∀ fragment ∈ (traffic base hw.log).incoming,
    fragment.Whole HeciMsgHdr.dataWords
  laid : message = some (request.layAll (traffic base hw.log).incoming.reverse)

section Receive

variable {earlier : List Fragment} {head : BitVec 32} {body : List (BitVec 32)}
variable {message : Option Message} {hw : Hw σ}

theorem LaidOver.settled (onto : LaidOver base request message hw) :
    Frame.Settled HeciMsgHdr.dataWords (traffic base hw.log).incoming :=
  fun fragment newest => onto.whole fragment (List.mem_of_mem_head? newest)

theorem LaidOver.of_same {next : Hw σ} (onto : LaidOver base request message hw)
    (same : traffic base next.log = traffic base hw.log) :
    LaidOver base request message next where
  whole := by
    rw [same]
    exact onto.whole
  laid := by
    rw [same]
    exact onto.laid

theorem LaidSoFar.of_same {next : Hw σ}
    (soFar : LaidSoFar base request earlier head body message hw)
    (same : traffic base next.log = traffic base hw.log) :
    LaidSoFar base request earlier head body message next where
  current := by
    rw [same]
    exact soFar.current
  laid := soFar.laid

/-- A header begins a fragment. -/
theorem LaidOver.begin {next : Hw σ} (onto : LaidOver base request message hw)
    (delivered : traffic base next.log = (traffic base hw.log).deliver head) :
    LaidSoFar base request (traffic base hw.log).incoming head [] message next where
  current := by
    rw [delivered, Traffic.incoming_deliver]
    exact Frame.push_of_settled onto.settled head
  laid := onto.laid

/-- A fragment with all its words joins those before it. -/
theorem LaidSoFar.finish
    (soFar : LaidSoFar base request earlier head body message hw)
    (count : body.length = HeciMsgHdr.dataWords head)
    (whole : ∀ fragment ∈ earlier, fragment.Whole HeciMsgHdr.dataWords) :
    LaidOver base request message hw where
  whole := by
    rw [soFar.current]
    exact List.forall_mem_cons.mpr ⟨count, whole⟩
  laid := by
    rw [soFar.current, List.reverse_cons, Message.layAll_snoc]
    exact soFar.laid

/-- A delivered word is stored behind those before it. -/
theorem LaidSoFar.store {value : BitVec 32} {next : Hw σ} (roomy : Roomy bufSize)
    (soFar : LaidSoFar base request earlier head body message hw)
    (unfinished : body.length < HeciMsgHdr.dataWords head)
    (delivered : traffic base next.log = (traffic base hw.log).deliver value)
    (halt : Hw σ → Prop) :
    Exec.Ends (storeWithin bufSize message body.length value) next
      (LaidSoFar base request earlier head (body ++ [value])) halt := by
  have extended := incoming_deliver_of_unfinished soFar.current unfinished value
  have within : bufSize = 0 ∨ body.length * 4 ≤ bufSize :=
    roomy _ (Nat.lt_of_lt_of_le unfinished (dataWords_le head))
  have stored : storeWithin bufSize message body.length value next =
      (.ok (some (((request.layAll earlier.reverse).lay ⟨head, body⟩).store body.length
        value)), { next with log := .store body.length value :: next.log }) := by
    rw [storeWithin, if_pos within, soFar.laid]
    rfl
  refine Exec.ends_of_eq stored ⟨?_, ?_⟩
  · rw [← delivered] at extended
    exact extended
  · rw [Message.lay, Message.lay, Message.storeAll_snoc, Nat.zero_add]

/-- The invariant of the buffer. -/
def laying (σ : Type u) (base : Nat) (request : Message) (roomy : Roomy bufSize) :
    ReceiveInvariant σ base bufSize where
  between := LaidOver base request
  within head body message hw := ∃ earlier,
    (∀ fragment ∈ earlier, fragment.Whole HeciMsgHdr.dataWords) ∧
      LaidSoFar base request earlier head body message hw
  halt _ := True
  between_same onto same := onto.of_same same
  within_same := by
    rintro head body message hw next ⟨earlier, whole, soFar⟩ same
    exact ⟨earlier, whole, soFar.of_same same⟩
  between_halt _ := trivial
  within_halt _ := trivial
  begins onto delivered := ⟨_, onto.whole, onto.begin delivered⟩
  stores := by
    rintro head body message hw next value ⟨earlier, whole, soFar⟩ unfinished delivered
    refine (soFar.store roomy unfinished delivered _).mono ?_ fun _ halted => halted
    exact fun _ _ placed => ⟨earlier, whole, placed⟩
  finishes := by
    rintro head body message hw ⟨earlier, whole, soFar⟩ count _
    exact soFar.finish count whole

/-- A receive that returns zero leaves the fragments one over the other. -/
theorem receiveLoop_lays (roomy : Roomy bufSize) (bound rounds : Nat)
    (length : Option Nat) (onto : LaidOver base request message hw) :
    Exec.Ends (receiveLoop device bound base bufSize rounds message length) hw
      (fun received final => received.status = 0 →
        LaidOver base request received.message final)
      fun _ => True := by
  refine (receiveLoop_keeps (laying σ base request roomy) bound rounds length onto).mono
    ?_ fun _ halted => halted
  rintro received final ⟨_, decided⟩ success
  obtain ⟨last, _, count, ⟨earlier, whole, soFar⟩, _⟩ := decided success
  exact soFar.finish count whole

end Receive

/-! ## Exchanges -/

/-- Nothing has been received. -/
def NothingReceived (base : Nat) (hw : Hw σ) : Prop :=
  (traffic base hw.log).delivered = []

/-- Before the first fragment the buffer holds the request. -/
theorem laidOver_start (request : Message) {hw : Hw σ}
    (nothing : NothingReceived base hw) :
    LaidOver base request (some request) hw := by
  have empty : (traffic base hw.log).incoming = [] := by
    rw [Traffic.incoming, nothing]
    rfl
  constructor
  · simp [empty]
  · rw [empty]
    rfl

theorem heciGetBaseAddr_receives_nothing (device : Device σ) (base : Nat) :
    Exec.Preserves (NothingReceived base) (heciGetBaseAddr device) := by
  have reads (width : Width) (reg : Nat) :
      Exec.Preserves (NothingReceived base) (readReg device .cse width reg) := by
    intro hw nothing
    rw [readReg_apply, NothingReceived, traffic_cons, Traffic.note, if_neg (by simp)]
    exact nothing
  have writes (width : Width) (reg : Nat) (value : BitVec 32) :
      Exec.Preserves (NothingReceived base) (writeReg device .cse width reg value) := by
    intro hw nothing
    rw [writeReg_apply, NothingReceived, traffic_cons, Traffic.note, if_neg (by simp)]
    exact nothing
  refine Exec.preserves_bind (reads _ _) fun bar => ?_
  refine Exec.preserves_bind (writes _ _ _) fun _ => ?_
  refine Exec.preserves_bind (reads _ _) fun _ => ?_
  refine Exec.preserves_bind (writes _ _ _) fun _ => ?_
  refine Exec.preserves_bind (reads _ _) fun restored => ?_
  refine Exec.preserves_bind
    (Exec.preserves_bind (reads _ _) fun _ => Exec.preserves_pure _ _) fun command => ?_
  refine Exec.preserves_bind ?_ fun _ => ?_
  · apply Exec.preserves_ite
    · exact Exec.preserves_bind (reads _ _) fun old => writes _ _ _
    · exact Exec.preserves_pure _ _
  · exact Exec.preserves_bind (fun _ nothing => nothing)
      fun mapped => Exec.preserves_pure _ _

/-- A send that returns zero has received nothing. -/
theorem heciSendImpl_receives_nothing (device : Device σ) (bound : Nat)
    (message : Message) {length : Nat} (nonempty : length ≠ 0)
    (hostAddress devAddr : BitVec 8) {hw : Hw σ} (nothing : NothingReceived base hw) :
    Exec.Ends (heciSendImpl device bound base (some message) length hostAddress devAddr)
      hw (fun status final => status = 0 → NothingReceived base final)
      fun _ => True := by
  simp only [heciSendImpl, if_neg nonempty]
  refine (readCsr_ends hw _).bind fun hcr first same => ?_
  refine (writeCsr_ends _ first _).bind fun _ second same' => ?_
  refine (sendLoop_ends bound message length hostAddress devAddr _ bound _ second).mono
    ?_ fun _ halted => halted
  intro status final sent success
  have once := sent success
  rw [same', same] at once
  rw [NothingReceived] at nothing ⊢
  by_cases empty : (length + 3) % 2 ^ 32 / 4 = 0
  · rw [once.nothing empty]
    exact nothing
  · rw [once.fragment empty]
    exact nothing

/-- The fragments of the reply to a request, the oldest first. -/
def replyFragments (device : Device σ) (bound offset size : Nat) (state : σ) :
    List Fragment :=
  let exchange := heciSendwAck device bound (requestMessage offset size) requestSize
    dataBufferSize biosFixedHostAddr biosSecAddr ⟨state, []⟩
  match (heciGetBaseAddr device ⟨state, []⟩).1 with
  | .ok base => (traffic base exchange.2.log).incoming.reverse
  | .error _ => []

variable {bound offset size : Nat} {answer : Int × Message}

/-- An exchange that succeeds has mapped the window, sent the request and received a
reply. -/
theorem heciSendwAck_succeeds {hw final : Hw σ}
    (returned : heciSendwAck device bound (requestMessage offset size) requestSize
      dataBufferSize biosFixedHostAddr biosSecAddr hw = (.ok answer, final))
    (success : answer.1 = 0) :
    ∃ base mapped sent received, heciGetBaseAddr device hw = (.ok base, mapped) ∧
      heciSendImpl device bound base (some (requestMessage offset size)) requestSize
        biosFixedHostAddr biosSecAddr mapped = (.ok 0, sent) ∧
      heciReceiveImpl device bound base (some (requestMessage offset size))
        (some dataBufferSize) sent = (.ok received, final) ∧
      received.status = 0 ∧
      answer.2 = received.message.getD (requestMessage offset size) := by
  rw [heciSendwAck] at returned
  obtain ⟨base, mapped, located, rest⟩ := Exec.bind_eq_ok_iff.mp returned
  by_cases unmapped : base = 0
  · rw [if_pos unmapped] at rest
    cases rest
    cases success
  · rw [if_neg unmapped] at rest
    obtain ⟨status, sent, sends, rest⟩ := Exec.bind_eq_ok_iff.mp rest
    by_cases failed : status ≠ 0
    · rw [if_pos failed] at rest
      cases rest
      exact absurd success failed
    · rw [if_neg failed] at rest
      obtain ⟨received, last, receives, rest⟩ := Exec.bind_eq_ok_iff.mp rest
      cases rest
      rw [not_not.mp failed] at sends
      exact ⟨base, mapped, sent, received, located, sends, receives, success, rfl⟩

/-- An exchange that succeeds leaves the fragments of the reply over the request. -/
theorem heciSendwAck_lays {state : σ} {final : Hw σ}
    (returned : heciSendwAck device bound (requestMessage offset size) requestSize
      dataBufferSize biosFixedHostAddr biosSecAddr ⟨state, []⟩ = (.ok answer, final))
    (success : answer.1 = 0) :
    (∀ fragment ∈ replyFragments device bound offset size state,
        fragment.Whole HeciMsgHdr.dataWords) ∧
      answer.2 = (requestMessage offset size).layAll
        (replyFragments device bound offset size state) := by
  obtain ⟨base, mapped, sent, received, located, sends, receives, complete, buffer⟩ :=
    heciSendwAck_succeeds returned success
  have fragments : replyFragments device bound offset size state =
      (traffic base final.log).incoming.reverse := by
    rw [replyFragments, returned, located]
  have quiet := heciGetBaseAddr_receives_nothing device base ⟨state, []⟩ rfl
  rw [located] at quiet
  have idle := heciSendImpl_receives_nothing device bound (requestMessage offset size)
    (by decide : requestSize ≠ 0) biosFixedHostAddr biosSecAddr quiet
  rw [Exec.Ends, sends] at idle
  have lays : Exec.Ends (heciReceiveImpl device bound base
      (some (requestMessage offset size)) (some dataBufferSize)) sent
      (fun received final => received.status = 0 →
        LaidOver base (requestMessage offset size) received.message final)
      fun _ => True :=
    receiveLoop_lays roomy_dataBufferSize bound bound _ (laidOver_start _ (idle rfl))
  rw [Exec.Ends, receives] at lays
  have onto := lays complete
  rw [fragments]
  constructor
  · intro fragment member
    exact onto.whole fragment (List.mem_reverse.mp member)
  · rw [buffer, onto.laid]
    rfl

/-- The exchange behind one that is put on record. -/
theorem attkbExchange_outcome {download after : Download σ}
    (returned : attkbExchange device bound offset size download = (.ok answer, after)) :
    ∃ hw, heciSendwAck device bound (requestMessage offset size) requestSize
        dataBufferSize biosFixedHostAddr biosSecAddr download.hw = (.ok answer, hw) ∧
      after = { download with
        hw := hw
        exchanges := download.exchanges ++ [⟨offset, size, answer.1, answer.2⟩] } := by
  rcases outcome : heciSendwAck device bound (requestMessage offset size) requestSize
      dataBufferSize biosFixedHostAddr biosSecAddr download.hw with ⟨reason | answer', hw⟩
  · have stopped := congrArg (fun run => (run.1, { download with hw := run.2 })) outcome
    have stops : attkbExchange device bound offset size download =
        (.error reason, { download with hw := hw }) := Exec.bind_of_error stopped
    rw [stops] at returned
    cases returned
  · rw [attkbExchange_returned device download outcome] at returned
    cases returned
    exact ⟨hw, rfl, rfl⟩

/-- What is on the log does not matter. -/
theorem attkbExchange_lays {download after : Download σ}
    (returned : attkbExchange device bound offset size download = (.ok answer, after))
    (success : answer.1 = 0) :
    (∀ fragment ∈ replyFragments device bound offset size download.hw.device,
        fragment.Whole HeciMsgHdr.dataWords) ∧
      answer.2 = (requestMessage offset size).layAll
        (replyFragments device bound offset size download.hw.device) := by
  obtain ⟨hw, exchanged, _⟩ := attkbExchange_outcome returned
  have blind : LogBlind (heciSendwAck device bound (requestMessage offset size) requestSize
      dataBufferSize biosFixedHostAddr biosSecAddr) :=
    MadeOfAccesses.logBlind (.heciSendwAck _ _ _ _ _ _)
  obtain ⟨sameResult, _⟩ := blind download.hw ⟨download.hw.device, []⟩ rfl
  rw [exchanged] at sameResult
  rcases again : heciSendwAck device bound (requestMessage offset size) requestSize
      dataBufferSize biosFixedHostAddr biosSecAddr ⟨download.hw.device, []⟩ with
    ⟨result, final⟩
  rw [again] at sameResult
  obtain rfl : .ok answer = result := sameResult
  exact heciSendwAck_lays again success

end SandPlatform.Heci
