import SandPlatform.Foundation.LittleEndian
import SandPlatform.Heci.Overlay
import SandPlatform.Heci.Rounds

/-!
# Where the bytes of the keybox come from

Each byte of the keybox is taken from the reply to one request of the chunk loop.
The reply is a response message of its own, with an offset and a size, and its
file data need not be what is taken: the loop checks the size only, against what
it asked for, and neither the offset nor the length of what was received.
-/

namespace SandPlatform.Heci

open SandPlatform.Foundation
open SandPlatform.Hardware
open SandPlatform.Kernel

universe u

/-! ## Responses -/

namespace Response

/-- The bytes of a response, from an address of zero on. -/
def memory (response : List (BitVec 8)) : Memory (BitVec 8) :=
  Memory.ofList response fun _ => 0

/-! The fields of a `MCA_BOOTLOADER_READ_ATTKB_EX_Response`. -/

/-- The member `ReadOffset`. -/
def readOffset (response : List (BitVec 8)) : Nat :=
  (memory response).load 6 2

/-- The member `ReadSize`. -/
def readSize (response : List (BitVec 8)) : Nat :=
  (memory response).load 8 2

/-- A byte of the file, as part of the `FileData` of a response. -/
structure Carries (response : List (BitVec 8)) (i : Nat) (value : BitVec 8) : Prop where
  long : responseSize + readSize response ≤ response.length
  lower : readOffset response ≤ i
  upper : i < readOffset response + readSize response
  data : response[responseSize + (i - readOffset response)]? = some value

/-- A buffer that begins with a response has its size. -/
theorem readSize_eq {response : List (BitVec 8)} {message : Message}
    (fixedPart : responseSize ≤ response.length)
    (same : ∀ i, i < response.length → response[i]? = some (message.byte i)) :
    message.readSize = readSize response := by
  have twelve : responseSize = 12 := rfl
  have there (i : Nat) (inside : i < 2) :
      memory response (8 + i) = Word.byte (message.word 2) (0 + i) := by
    have place : 8 + i < response.length := by omega
    have first : memory response (8 + i) = response[8 + i] :=
      Memory.ofList_apply_of_lt place
    have byte := same (8 + i) place
    have word : (8 + i) / 4 = 2 := by omega
    have rest : (8 + i) % 4 = i := by omega
    rw [List.getElem?_eq_getElem place, Option.some.injEq] at byte
    rw [first, byte, Message.byte, word, rest, Nat.zero_add]
  rw [readSize, Memory.load_of_bytes there, Message.readSize, Word.toNat_field]

end Response

/-! ## Replies in fragments -/

/-- The bytes of a message that comes in fragments. -/
def wholeMessage (fragments : List Fragment) : List (BitVec 8) :=
  fragments.flatMap Fragment.payload

/-- With the fragments over it, the buffer has no more file data than the message
they make up, and the same. -/
structure Shows (request : Message) (fragments : List Fragment) : Prop where
  size : (request.layAll fragments).readSize ≤ Response.readSize (wholeMessage fragments)
  data : ∀ j, j < (request.layAll fragments).readSize →
    (wholeMessage fragments)[responseSize + j]? =
      some ((request.layAll fragments).byte (responseSize + j))

/-- A single fragment over a buffer begins it. -/
theorem getElem?_payload {fragment : Fragment} (request : Message)
    (whole : fragment.Whole HeciMsgHdr.dataWords) {i : Nat}
    (inside : i < fragment.payload.length) :
    fragment.payload[i]? = some ((request.lay fragment).byte i) := by
  have small := HeciMsgHdr.length_lt fragment.head
  rw [Fragment.length_payload] at inside
  rw [← map_byte_eq_payload whole (request.holds_lay 512 fragment) (Nat.le_of_lt small)]
  simp [inside]

/-- A message in one fragment shows if it is as long as it says. -/
theorem shows_single {fragment : Fragment} (request : Message)
    (whole : fragment.Whole HeciMsgHdr.dataWords)
    (long : responseSize + Response.readSize (wholeMessage [fragment]) ≤
      (wholeMessage [fragment]).length) : Shows request [fragment] := by
  have single : wholeMessage [fragment] = fragment.payload := by simp [wholeMessage]
  have same : (request.layAll [fragment]).readSize =
      Response.readSize (wholeMessage [fragment]) := by
    rw [single] at long ⊢
    rw [Message.layAll_singleton]
    exact Response.readSize_eq (Nat.le_of_add_right_le long)
      fun i inside => getElem?_payload request whole inside
  constructor
  · exact Nat.le_of_eq same
  · intro j inside
    rw [same] at inside
    rw [single] at long inside ⊢
    rw [Message.layAll_singleton]
    exact getElem?_payload request whole (by omega)

/-! ## Accepted chunks -/

variable {σ : Type u}

/-- A chunk that the loop accepts: the round that asks for it, and the answer. -/
structure AcceptedChunk (device : Device σ) (bound : Nat) (start : Download σ)
    (total : Nat) where
  round : ChunkRound σ
  answer : Int × Message
  after : Download σ
  reached : ChunkRound.Reached device start total round
  missing : round.remaining ≠ 0
  returned : attkbExchange device bound round.offset round.reqSize round.download =
    (.ok answer, after)
  accepts : round.Accepts answer

namespace AcceptedChunk

variable {device : Device σ} {bound : Nat} {start : Download σ} {total : Nat}
variable (chunk : AcceptedChunk device bound start total)

/-- `ReadSize` as the loop finds it in the buffer. -/
def size : Nat :=
  chunk.answer.2.readSize

/-- The chunk is where a byte of the keybox comes from. -/
def Covers (i : Nat) : Prop :=
  chunk.round.offset ≤ i ∧ i < chunk.round.offset + chunk.size

/-- The request as it was sent. -/
def request : Message :=
  requestMessage chunk.round.offset chunk.round.reqSize

/-- The fragments of the reply. -/
def fragments : List Fragment :=
  replyFragments device bound chunk.round.offset chunk.round.reqSize
    chunk.round.download.hw.device

/-- The reply. -/
def response : List (BitVec 8) :=
  wholeMessage chunk.fragments

/-- The round behind the chunk. -/
def next : ChunkRound σ :=
  chunk.round.advance chunk.answer chunk.after

theorem goesOn : ChunkRound.GoesOn device chunk.round chunk.next :=
  .accepted chunk.missing ⟨bound, chunk.returned⟩ chunk.accepts

theorem reached_next : ChunkRound.Reached device start total chunk.next :=
  chunk.reached.next chunk.goesOn

theorem offset_next : chunk.next.offset = chunk.round.offset + chunk.size :=
  (ChunkRound.advance_exact chunk.after chunk.reached chunk.accepts).1

/-- No chunk goes beyond the end of the file. -/
theorem end_le : chunk.round.offset + chunk.size ≤ total := by
  have balance := chunk.reached_next.balance.1
  rw [offset_next] at balance
  omega

/-- The reply is over the request. -/
theorem laid (success : chunk.answer.1 = 0) :
    (∀ fragment ∈ chunk.fragments, fragment.Whole HeciMsgHdr.dataWords) ∧
      chunk.answer.2 = chunk.request.layAll chunk.fragments :=
  attkbExchange_lays chunk.returned success

variable {chunk}

/-- Of two chunks with a byte in common the first one is not before the second one. -/
theorem round_eq_of_follows {other : AcceptedChunk device bound start total} {i : Nat}
    (covers : chunk.Covers i) (covers' : other.Covers i)
    (follows : Relation.ReflTransGen (ChunkRound.GoesOn device) chunk.round other.round) :
    other.round = chunk.round := by
  rcases follows.cases_head with same | ⟨middle, goesOn, rest⟩
  · exact same.symm
  · have second : middle = chunk.next := ChunkRound.goesOn_unique goesOn chunk.goesOn
    subst second
    have behind := ChunkRound.offset_le_of_follows chunk.reached_next rest
    rw [offset_next] at behind
    have upper := covers.2
    have lower := covers'.1
    omega

theorem eq_of_round {other : AcceptedChunk device bound start total}
    (same : other.round = chunk.round) : other = chunk := by
  obtain ⟨round, answer, after, reached, missing, returned, accepts⟩ := chunk
  obtain ⟨round', answer', after', reached', missing', returned', accepts'⟩ := other
  subst same
  rw [returned] at returned'
  cases returned'
  rfl

/-- Every byte comes from one chunk. -/
theorem eq_of_covers {other : AcceptedChunk device bound start total} {i : Nat}
    (covers : chunk.Covers i) (covers' : other.Covers i) : other = chunk := by
  rcases ChunkRound.reached_comparable chunk.reached other.reached with follows | follows
  · exact eq_of_round (round_eq_of_follows covers covers' follows)
  · exact eq_of_round (round_eq_of_follows covers' covers follows).symm

end AcceptedChunk

/-! ## The run -/

section Run

variable {device : Device σ} {bound : Nat} {start : Download σ} {total n : Nat}
variable {round : ChunkRound σ} {final : Download σ}

/-- A round with bytes missing, in a run that does not fail, accepts a chunk. -/
theorem exists_chunk_of_loop {rounds : Nat} (positive : n ≠ 0)
    (reached : ChunkRound.Reached device start total round) (missing : round.remaining ≠ 0)
    (returned : round.loop device bound total rounds = (.ok n, final)) :
    ∃ (chunk : AcceptedChunk device bound start total) (rounds' : Nat),
      chunk.round = round ∧ rounds = rounds' + 1 ∧
        chunk.next.loop device bound total rounds' = (.ok n, final) := by
  cases rounds with
  | zero => cases returned
  | succ rounds =>
      rcases outcome : attkbExchange device bound round.offset round.reqSize
          round.download with ⟨reason | answer, after⟩
      · rw [(ChunkRound.loop_stopped total rounds missing outcome).1] at returned
        cases returned
      · by_cases accepts : round.Accepts answer
        · rw [ChunkRound.loop_accepted reached missing outcome accepts] at returned
          exact ⟨⟨round, answer, after, reached, missing, outcome, accepts⟩, rounds, rfl, rfl,
            returned⟩
        · rw [ChunkRound.loop_refused missing outcome accepts] at returned
          cases returned
          exact absurd rfl positive

/-- What the rest of a run leaves as it is. -/
structure Completes (total n : Nat) (round : ChunkRound σ) (final : Download σ) :
    Prop where
  total : n = total
  block : ∀ i, i < round.offset → final.block i = round.download.block i
  exchanges : ∀ exchange ∈ round.download.exchanges, exchange ∈ final.exchanges

/-- An accepted chunk is stored behind the bytes before it. -/
theorem AcceptedChunk.completes (chunk : AcceptedChunk device bound start total)
    (rest : Completes total n chunk.next final) :
    Completes total n chunk.round final where
  total := rest.total
  block := by
    intro i before
    have kept := rest.block i (by rw [chunk.offset_next]; omega)
    obtain ⟨hw, _, after⟩ := attkbExchange_outcome chunk.returned
    rw [kept, AcceptedChunk.next, ChunkRound.advance, Download.block_storeChunk,
      Memory.copy_apply_of_lt before, after]
  exchanges := by
    intro exchange member
    obtain ⟨hw, _, after⟩ := attkbExchange_outcome chunk.returned
    apply rest.exchanges
    change exchange ∈ chunk.after.exchanges
    rw [after]
    exact List.mem_append_left _ member

theorem completes_of_loop {rounds : Nat} (positive : n ≠ 0)
    (reached : ChunkRound.Reached device start total round)
    (returned : round.loop device bound total rounds = (.ok n, final)) :
    Completes total n round final := by
  induction rounds generalizing round with
  | zero => cases returned
  | succ rounds ih =>
      by_cases finished : round.remaining = 0
      · rw [ChunkRound.loop, chunkLoop, if_pos finished] at returned
        cases returned
        exact ⟨rfl, fun _ _ => rfl, fun _ member => member⟩
      · obtain ⟨chunk, rounds', rfl, same, rest⟩ :=
          exists_chunk_of_loop positive reached finished returned
        cases same
        exact chunk.completes (ih chunk.reached_next rest)

/-- The chunks reach as far as the file. -/
theorem exists_covers_of_loop {rounds i : Nat} (positive : n ≠ 0)
    (reached : ChunkRound.Reached device start total round)
    (returned : round.loop device bound total rounds = (.ok n, final))
    (lower : round.offset ≤ i) (upper : i < total) :
    ∃ chunk : AcceptedChunk device bound start total, chunk.Covers i := by
  induction rounds generalizing round with
  | zero => cases returned
  | succ rounds ih =>
      have balance := reached.balance.1
      obtain ⟨chunk, rounds', rfl, count, rest⟩ :=
        exists_chunk_of_loop positive reached (by omega) returned
      cases count
      by_cases inside : i < chunk.round.offset + chunk.size
      · exact ⟨chunk, lower, inside⟩
      · refine ih chunk.reached_next rest ?_
        rw [chunk.offset_next]
        omega

/-- The size that was reported is the one that is returned. -/
theorem getAttkb_loops (positive : n ≠ 0)
    (returned : getAttkb device bound false start = (.ok n, final)) :
    ∃ asked, getAttkbSize device bound start = (.ok n, asked) ∧
      ChunkRound.loop device bound n bound ⟨0, n, asked⟩ = (.ok n, final) := by
  rw [getAttkb, if_neg Bool.false_ne_true] at returned
  obtain ⟨total, asked, reported, rest⟩ := Exec.bind_eq_ok_iff.mp returned
  by_cases empty : total = 0
  · rw [if_pos empty] at rest
    cases rest
    exact absurd rfl positive
  · rw [if_neg empty] at rest
    have completes := completes_of_loop positive (.first reported empty) rest
    obtain rfl : n = total := completes.total
    exact ⟨asked, reported, rest⟩

/-- The run goes through every round. -/
theorem loop_of_reached (positive : n ≠ 0)
    (returned : getAttkb device bound false start = (.ok n, final))
    (reached : ChunkRound.Reached device start n round) :
    ∃ rounds, round.loop device bound n rounds = (.ok n, final) := by
  induction reached with
  | first reported _ =>
      obtain ⟨asked, reported', rest⟩ := getAttkb_loops positive returned
      obtain ⟨_, rfl⟩ := getAttkbSize_unique reported reported'
      exact ⟨bound, rest⟩
  | @next round later reached goesOn ih =>
      obtain ⟨rounds, rest⟩ := ih
      have missing : round.remaining ≠ 0 := by
        cases goesOn with
        | accepted missing _ _ => exact missing
      obtain ⟨chunk, rounds', rfl, _, rest'⟩ :=
        exists_chunk_of_loop positive reached missing rest
      obtain rfl := ChunkRound.goesOn_unique goesOn chunk.goesOn
      exact ⟨rounds', rest'⟩

variable {chunk : AcceptedChunk device bound start n}

/-- The exchange of a chunk is one of those made, and its bytes stay in the block. -/
theorem AcceptedChunk.stored (positive : n ≠ 0)
    (returned : getAttkb device bound false start = (.ok n, final)) :
    ⟨chunk.round.offset, chunk.round.reqSize, chunk.answer.1, chunk.answer.2⟩ ∈
        final.exchanges ∧
      ∀ j, j < chunk.size → (final.block (chunk.round.offset + j)).value =
        chunk.answer.2.byte (responseSize + j) := by
  obtain ⟨rounds, rest⟩ := loop_of_reached positive returned chunk.reached_next
  have completes := completes_of_loop positive chunk.reached_next rest
  obtain ⟨hw, _, after⟩ := attkbExchange_outcome chunk.returned
  constructor
  · apply completes.exchanges
    change _ ∈ chunk.after.exchanges
    rw [after]
    exact List.mem_append_right _ List.mem_cons_self
  · intro j inside
    have upper : chunk.round.offset + j < chunk.round.offset + chunk.answer.2.readSize :=
      Nat.add_lt_add_left inside _
    rw [completes.block _ (by rw [chunk.offset_next]; exact upper), AcceptedChunk.next,
      ChunkRound.advance, Download.block_storeChunk,
      Memory.copy_apply_of_mem (Nat.le_add_right _ _) upper, Nat.add_sub_cancel_left]
    rfl

end Run

/-! ## Genuine bytes -/

namespace AcceptedChunk

variable {device : Device σ} {bound n : Nat} {start final : Download σ}

/-- A byte of the keybox was delivered in the reply to the request for the chunk, as
file data for its place in the file. -/
structure Delivers (chunk : AcceptedChunk device bound start n) (i : Nat)
    (value : BitVec 8) : Prop where
  covers : chunk.Covers i
  requested : Response.readOffset chunk.response = chunk.round.offset
  carries : Response.Carries chunk.response i value

/-- The reply is at the requested offset and as long as it says.  If it came in
several fragments, these show the message although each is over those before it. -/
structure Conforms (chunk : AcceptedChunk device bound start n) : Prop where
  requested : Response.readOffset chunk.response = chunk.round.offset
  long : responseSize + Response.readSize chunk.response ≤ chunk.response.length
  shows : 1 < chunk.fragments.length → Shows chunk.request chunk.fragments

variable {chunk : AcceptedChunk device bound start n}

/-- A single fragment shows by itself. -/
theorem Conforms.shows_always (conforms : chunk.Conforms)
    (whole : ∀ fragment ∈ chunk.fragments, fragment.Whole HeciMsgHdr.dataWords) :
    Shows chunk.request chunk.fragments := by
  have long := conforms.long
  have shows := conforms.shows
  rw [response] at long
  rcases cut : chunk.fragments with _ | ⟨fragment, _ | ⟨second, later⟩⟩
  · rw [cut] at long
    have empty : (wholeMessage []).length = 0 := rfl
    have twelve : responseSize = 12 := rfl
    omega
  · rw [cut] at long whole
    exact shows_single chunk.request (whole fragment List.mem_cons_self) long
  · rw [cut] at shows
    exact shows (by simp)

/-- What a chunk conforms to makes its bytes genuine. -/
theorem Conforms.delivers (conforms : chunk.Conforms) (success : chunk.answer.1 = 0)
    {i : Nat} (covers : chunk.Covers i) :
    chunk.Delivers i
      (chunk.answer.2.byte (responseSize + (i - chunk.round.offset))) := by
  obtain ⟨whole, laid⟩ := chunk.laid success
  have lower := covers.1
  have upper := covers.2
  have shows := conforms.shows_always whole
  have fewer := shows.size
  have inside : i - chunk.round.offset < chunk.size := by omega
  rw [size, laid] at inside upper
  refine ⟨covers, conforms.requested, conforms.long, ?_, ?_, ?_⟩
  · rw [conforms.requested]
    exact lower
  · rw [conforms.requested]
    exact Nat.lt_of_lt_of_le upper (Nat.add_le_add_left fewer _)
  · rw [conforms.requested, laid]
    exact shows.data _ inside

/-- A chunk whose bytes are all genuine conforms. -/
theorem conforms_of_delivers (success : chunk.answer.1 = 0) (nonempty : chunk.size ≠ 0)
    (delivers : ∀ j, j < chunk.size → chunk.Delivers (chunk.round.offset + j)
      (chunk.answer.2.byte (responseSize + j))) : chunk.Conforms := by
  obtain ⟨_, laid⟩ := chunk.laid success
  have first := delivers 0 (Nat.pos_of_ne_zero nonempty)
  refine ⟨first.requested, first.carries.long, fun _ => ⟨?_, fun j inside => ?_⟩⟩
  · have last := (delivers (chunk.size - 1) (by omega)).carries.upper
    rw [first.requested] at last
    have fewer : chunk.size ≤ Response.readSize chunk.response := by omega
    rw [size, laid] at fewer
    exact fewer
  · rw [← laid] at inside ⊢
    have data := (delivers j inside).carries.data
    rw [first.requested, Nat.add_sub_cancel_left] at data
    exact data

end AcceptedChunk

section Keybox

variable {device : Device σ} {bound n : Nat} {hw : Hw σ} {block : Memory Cell}
variable {final : Download σ}

/-- When all exchanges complete, every byte of a keybox that is reported was delivered
as file data for its place exactly when every chunk with bytes conforms. -/
theorem keybox_delivered_iff
    (returned : getAttkb device bound false (Download.start hw block) = (.ok n, final))
    (positive : n ≠ 0) (completed : ∀ exchange ∈ final.exchanges, exchange.status = 0) :
    (∀ i, i < n → ∃ chunk : AcceptedChunk device bound (Download.start hw block) n,
        chunk.Delivers i (final.block i).value) ↔
      ∀ chunk : AcceptedChunk device bound (Download.start hw block) n,
        chunk.size ≠ 0 → chunk.Conforms := by
  have success (chunk : AcceptedChunk device bound (Download.start hw block) n) :
      chunk.answer.1 = 0 := completed _ (chunk.stored positive returned).1
  constructor
  · intro delivered chunk nonempty
    refine AcceptedChunk.conforms_of_delivers (success chunk) nonempty fun j inside => ?_
    have within := chunk.end_le
    obtain ⟨other, delivers⟩ := delivered (chunk.round.offset + j) (by omega)
    have covers : chunk.Covers (chunk.round.offset + j) :=
      ⟨Nat.le_add_right _ _, Nat.add_lt_add_left inside _⟩
    obtain rfl := AcceptedChunk.eq_of_covers covers delivers.covers
    rw [← (other.stored positive returned).2 j inside]
    exact delivers
  · intro conforms i inside
    obtain ⟨asked, reported, rest⟩ := getAttkb_loops positive returned
    obtain ⟨chunk, covers⟩ := exists_covers_of_loop positive (.first reported positive) rest
      (Nat.zero_le i) inside
    have nonempty : chunk.size ≠ 0 := by
      have both := covers
      rw [AcceptedChunk.Covers] at both
      omega
    have place : chunk.round.offset + (i - chunk.round.offset) = i :=
      Nat.add_sub_of_le covers.1
    have byte := (chunk.stored positive returned).2 (i - chunk.round.offset)
      (by have upper := covers.2; omega)
    rw [place] at byte
    refine ⟨chunk, ?_⟩
    rw [byte]
    exact (conforms chunk nonempty).delivers (success chunk) covers

end Keybox

/-! ## A reply without its data -/

/-- Answers a size query with one byte, and a request with a chunk of one byte that
stops short of it. -/
def shortReply (frame : List (BitVec 32)) : List (BitVec 32) :=
  if Word.field (frame.getD 2 0) 16 16 = 0 then
    [replyHead responseSize, 0, 1, 0]
  else
    [replyHead responseSize, 0, 1, 1]

/-- A device that answers so at once. -/
def shortDevice : Device Mailbox :=
  mailboxDevice shortReply fun _ => true

/-- The download from the device. -/
def shortStart : Download Mailbox :=
  Download.start ⟨Mailbox.empty, []⟩ fun _ => Cell.zero

/-- What the download leaves. -/
def shortFinal : Download Mailbox :=
  (getAttkb shortDevice 8 false shortStart).2

theorem short_returns : getAttkb shortDevice 8 false shortStart = (.ok 1, shortFinal) := by
  have size : (getAttkb shortDevice 8 false shortStart).1 = .ok 1 := by decide +kernel
  exact Prod.ext size rfl

theorem short_completes : ∀ exchange ∈ shortFinal.exchanges, exchange.status = 0 := by
  decide +kernel

/-- The round that asks for the byte. -/
def shortRound : ChunkRound Mailbox :=
  ⟨0, 1, (getAttkbSize shortDevice 8 shortStart).2⟩

theorem short_reached : ChunkRound.Reached shortDevice shortStart 1 shortRound := by
  have size : (getAttkbSize shortDevice 8 shortStart).1 = .ok 1 := by decide +kernel
  exact .first (Prod.ext size rfl) Nat.one_ne_zero

/-- The answer says that it carries the byte. -/
theorem exists_shortChunk :
    ∃ chunk : AcceptedChunk shortDevice 8 shortStart 1,
      chunk.round = shortRound ∧ chunk.Covers 0 := by
  obtain ⟨rounds, rest⟩ := loop_of_reached Nat.one_ne_zero short_returns short_reached
  obtain ⟨chunk, _, same, _, _⟩ :=
    exists_chunk_of_loop Nat.one_ne_zero short_reached Nat.one_ne_zero rest
  have claims : (attkbExchange shortDevice 8 shortRound.offset shortRound.reqSize
      shortRound.download).1.toOption.map (fun answer => answer.2.readSize) = some 1 := by
    decide +kernel
  have returned := chunk.returned
  rw [same] at returned
  rw [returned] at claims
  have size : chunk.size = 1 := Option.some.inj claims
  refine ⟨chunk, same, ?_, ?_⟩
  · simp [same, shortRound]
  · omega

/-- The byte is not part of the reply. -/
theorem shortRound_short :
    ¬ responseSize + Response.readSize (wholeMessage (replyFragments shortDevice 8
        shortRound.offset shortRound.reqSize shortRound.download.hw.device)) ≤
      (wholeMessage (replyFragments shortDevice 8 shortRound.offset shortRound.reqSize
        shortRound.download.hw.device)).length := by
  decide +kernel

/-- All exchanges complete, a keybox of one byte is reported, and the byte is none
that was delivered as file data. -/
theorem zero_fill_reported :
    ¬ ∀ n final, getAttkb shortDevice 8 false shortStart = (.ok n, final) → n ≠ 0 →
      (∀ exchange ∈ final.exchanges, exchange.status = 0) →
        ∀ i, i < n → ∃ chunk : AcceptedChunk shortDevice 8 shortStart n,
          chunk.Delivers i (final.block i).value := by
  intro claimed
  obtain ⟨other, delivers⟩ :=
    claimed 1 shortFinal short_returns Nat.one_ne_zero short_completes 0 Nat.one_pos
  obtain ⟨chunk, same, covers⟩ := exists_shortChunk
  obtain rfl := AcceptedChunk.eq_of_covers covers delivers.covers
  have long := delivers.carries.long
  rw [AcceptedChunk.response, AcceptedChunk.fragments, same] at long
  exact shortRound_short long

/-- On this device neither side holds. -/
theorem keybox_delivered_short_iff :
    (∀ i, i < 1 → ∃ chunk : AcceptedChunk shortDevice 8 shortStart 1,
        chunk.Delivers i (shortFinal.block i).value) ↔
      ∀ chunk : AcceptedChunk shortDevice 8 shortStart 1, chunk.size ≠ 0 → chunk.Conforms :=
  keybox_delivered_iff short_returns Nat.one_ne_zero short_completes

end SandPlatform.Heci
