import SandPlatform.Foundation.Run
import SandPlatform.Foundation.Tiling
import SandPlatform.Heci.Keybox

/-!
# What the replies decide

How far a download gets is a function of the replies alone.  `Progress` replays
the replies and keeps the part of the file accepted so far; `get_attkb` is then
shown to follow it on every device: the block holds exactly the accepted bytes,
the stores tile the accepted prefix, and the result is zero exactly when a reply
was refused.
-/

namespace SandPlatform.Heci

open SandPlatform.Foundation
open SandPlatform.Hardware
open SandPlatform.Kernel

universe u

/-! ## Status of an exchange -/

section Status

variable {σ : Type u} (device : Device σ)

/-- The two values the transport returns: success, and its only error code. -/
def IsStatus (status : Int) : Prop :=
  status = 0 ∨ status = 1

theorem sendLoop_yields (bound base : Nat) (message : Message) (length : Nat)
    (hostAddress devAddr : BitVec 8) (maxBuffer rounds leftSize writeSize : Nat) :
    Exec.Yields IsStatus (sendLoop device bound base message length hostAddress
      devAddr maxBuffer rounds leftSize writeSize) := by
  induction rounds generalizing leftSize writeSize with
  | zero => exact Exec.yields_stop _ _
  | succ rounds ih =>
      rw [sendLoop]
      apply Exec.yields_ite
      · exact Exec.yields_pure (Or.inl rfl)
      · refine Exec.yields_bind fun ready => ?_
        apply Exec.yields_ite
        · exact Exec.yields_pure (Or.inr rfl)
        · refine Exec.yields_bind fun _ => ?_
          apply Exec.yields_ite
          · refine Exec.yields_bind fun raised => ?_
            apply Exec.yields_ite
            · exact Exec.yields_pure (Or.inr rfl)
            · exact ih _ _
          · exact ih _ _

theorem heciSendImpl_yields (bound base : Nat) (message : Option Message)
    (length : Nat) (hostAddress devAddr : BitVec 8) :
    Exec.Yields IsStatus
      (heciSendImpl device bound base message length hostAddress devAddr) := by
  cases message with
  | none => exact Exec.yields_pure (Or.inr rfl)
  | some message =>
      apply Exec.yields_ite
      · exact Exec.yields_pure (Or.inr rfl)
      · refine Exec.yields_bind fun hcr => ?_
        refine Exec.yields_bind fun _ => ?_
        exact sendLoop_yields device _ _ _ _ _ _ _ _ _ _

/-- A receive leaves a buffer that still starts from the words of the
request. -/
def KeepsRequest (request : Memory (BitVec 32)) (message : Option Message) :
    Prop :=
  ∃ buffer, message = some buffer ∧ buffer.initial = request

theorem storeWithin_yields {request : Memory (BitVec 32)} (bufSize : Nat)
    {message : Option Message} (kept : KeepsRequest request message)
    (index : Nat) (value : BitVec 32) :
    Exec.Yields (KeepsRequest request)
      (storeWithin (σ := σ) bufSize message index value) := by
  rcases kept with ⟨buffer, rfl, same⟩
  apply Exec.yields_ite
  · refine Exec.yields_bind fun _ => ?_
    exact Exec.yields_pure ⟨_, rfl, same⟩
  · exact Exec.yields_pure ⟨buffer, rfl, same⟩

theorem receiveWords_yields {request : Memory (BitVec 32)}
    (bound base bufSize left index : Nat) {message : Option Message}
    (kept : KeepsRequest request message) :
    Exec.Yields (fun words => KeepsRequest request words.2.2)
      (receiveWords device bound base bufSize left index message) := by
  induction left generalizing index message with
  | zero => exact Exec.yields_pure kept
  | succ left ih =>
      rw [receiveWords]
      refine Exec.yields_bind fun ready => ?_
      apply Exec.yields_ite
      · exact Exec.yields_pure kept
      · refine Exec.yields_bind fun value => ?_
        refine (storeWithin_yields bufSize kept index value).bind fun next kept => ?_
        exact ih _ kept

theorem receiveLoop_yields {request : Memory (BitVec 32)}
    (bound base bufSize rounds : Nat) {message : Option Message}
    (kept : KeepsRequest request message) (length : Option Nat) :
    Exec.Yields
      (fun received => IsStatus received.status ∧
        KeepsRequest request received.message)
      (receiveLoop device bound base bufSize rounds message length) := by
  induction rounds generalizing message length with
  | zero => exact Exec.yields_stop _ _
  | succ rounds ih =>
      rw [receiveLoop]
      refine Exec.yields_bind fun hcr => ?_
      refine Exec.yields_bind fun _ => ?_
      refine Exec.yields_bind fun ready => ?_
      apply Exec.yields_ite
      · exact Exec.yields_pure ⟨Or.inr rfl, kept⟩
      · refine Exec.yields_bind fun head => ?_
        refine (receiveWords_yields device _ _ _ _ _ kept).bind
          fun words kept => ?_
        apply Exec.yields_ite
        · refine Exec.yields_bind fun status => ?_
          refine Exec.yields_bind fun _ => ?_
          apply Exec.yields_ite
          · exact Exec.yields_pure ⟨Or.inl rfl, kept⟩
          · exact ih kept _
        · exact Exec.yields_pure ⟨Or.inr rfl, kept⟩

/-- An exchange never returns a negative status, and its buffer starts from the
request. -/
theorem heciSendwAck_yields (bound : Nat) (message : Message)
    (length recLength : Nat) (hostAddress secAddress : BitVec 8) :
    Exec.Yields
      (fun answer => IsStatus answer.1 ∧ answer.2.initial = message.initial)
      (heciSendwAck device bound message length recLength hostAddress
        secAddress) := by
  refine Exec.yields_bind fun base => ?_
  apply Exec.yields_ite
  · exact Exec.yields_pure ⟨Or.inr rfl, rfl⟩
  · refine (heciSendImpl_yields device _ _ _ _ _ _).bind fun status isStatus => ?_
    apply Exec.yields_ite
    · exact Exec.yields_pure ⟨isStatus, rfl⟩
    · have kept : KeepsRequest message.initial (some message) :=
        ⟨message, rfl, rfl⟩
      refine (receiveLoop_yields device _ _ _ _ kept _).bind ?_
      rintro received ⟨isStatus, buffer, same, kept⟩
      refine Exec.yields_pure ⟨isStatus, ?_⟩
      rw [same]
      exact kept

end Status

/-! ## Replaying the replies -/

/-- Where a download stands: waiting for the size, reading a file of the
reported size, or given up. -/
inductive Phase
  | asking
  | reading (total : Nat)
  | refused
  deriving DecidableEq

/-- The phase and the part of the file accepted so far. -/
structure Progress where
  phase : Phase
  file : List Cell

namespace Progress

/-- Before the first reply. -/
def initial : Progress :=
  ⟨.asking, []⟩

/-- The most bytes a chunk reply may claim to carry. -/
def allowance (total : Nat) (file : List Cell) : Nat :=
  min (total - file.length) alignedMaxTransferBuffer

/-- The effect of one reply, whatever the status of its exchange. -/
def next (progress : Progress) (exchange : Exchange) : Progress :=
  match progress.phase with
  | .asking =>
      if exchange.reply.result ≠ 0 ∨ exchange.reply.totalFileSize = 0 then
        { progress with phase := .refused }
      else
        { progress with phase := .reading exchange.reply.totalFileSize }
  | .reading total =>
      if exchange.reply.result ≠ 0 ∨
          allowance total progress.file < exchange.reply.readSize then
        { progress with phase := .refused }
      else
        { progress with
          file := progress.file ++
            exchange.reply.cell.read responseSize exchange.reply.readSize }
  | .refused => progress

end Progress

/-- The state the replies lead to. -/
def progressOf (exchanges : List Exchange) : Progress :=
  exchanges.foldl Progress.next Progress.initial

@[simp]
theorem progressOf_nil : progressOf [] = Progress.initial :=
  rfl

theorem progressOf_snoc (exchanges : List Exchange) (exchange : Exchange) :
    progressOf (exchanges ++ [exchange]) =
      (progressOf exchanges).next exchange :=
  List.foldl_append

/-! ## The download follows the replies -/

variable {σ : Type u}

/-- The block and the stores of a download are those of the accepted part of
the file. -/
structure Tracks (block : Memory Cell) (download : Download σ) : Prop where
  block_eq : download.block =
    Memory.ofList (progressOf download.exchanges).file block
  tiles : Tiles 0 download.writes (progressOf download.exchanges).file.length

/-- How the outcome of `get_attkb` relates to the replies. -/
def Reports (outcome : Except Stop Nat) (progress : Progress) : Prop :=
  match outcome with
  | .ok size =>
      (size = 0 ∧ progress.phase = .refused) ∨
        (size ≠ 0 ∧ progress.phase = .reading size ∧
          progress.file.length = size)
  | .error _ => progress.phase ≠ .refused

/-- An exchange as it is put on record: one of the two statuses, and a buffer
that holds the request wherever the device delivered nothing. -/
structure Recorded (exchange : Exchange) : Prop where
  status : IsStatus exchange.status
  request : exchange.reply.initial = requestWords exchange.offset exchange.size

/-- Every exchange so far was put on record that way. -/
def AllRecorded (download : Download σ) : Prop :=
  ∀ exchange ∈ download.exchanges, Recorded exchange

variable (device : Device σ)

/-- An exchange that returns is put on record. -/
theorem attkbExchange_returned {bound offset size : Nat} (download : Download σ)
    {answer : Int × Message} {hw : Hw σ}
    (outcome : heciSendwAck device bound (requestMessage offset size) requestSize
      dataBufferSize biosFixedHostAddr biosSecAddr download.hw = (.ok answer, hw)) :
    attkbExchange device bound offset size download =
      (.ok answer,
        { download with
          hw := hw
          exchanges := download.exchanges ++ [⟨offset, size, answer.1, answer.2⟩] }) := by
  have returned := congrArg
    (fun run => (run.1, { download with hw := run.2 })) outcome
  exact (Exec.bind_of_ok returned).trans rfl

/-- An exchange either does not return and only touches the hardware, or
returns a status and a buffer that are put on record. -/
theorem attkbExchange_cases (bound offset size : Nat) (download : Download σ) :
    (∃ reason hw, attkbExchange device bound offset size download =
        (.error reason, { download with hw := hw })) ∨
      ∃ answer hw, Recorded ⟨offset, size, answer.1, answer.2⟩ ∧
        attkbExchange device bound offset size download =
          (.ok answer,
            { download with
              hw := hw
              exchanges := download.exchanges ++
                [⟨offset, size, answer.1, answer.2⟩] }) := by
  rcases outcome : heciSendwAck device bound (requestMessage offset size)
      requestSize dataBufferSize biosFixedHostAddr biosSecAddr download.hw with
    ⟨reason | answer, hw⟩
  · have stopped := congrArg
      (fun run => (run.1, { download with hw := run.2 })) outcome
    left
    exact ⟨reason, hw, Exec.bind_of_error stopped⟩
  · rcases heciSendwAck_yields device _ _ _ _ _ _ _ _ _ outcome with
      ⟨isStatus, request⟩
    right
    exact ⟨answer, hw, ⟨isStatus, request⟩, attkbExchange_returned device _ outcome⟩

/-- What holds of a download whichever way it ended. -/
structure Follows (block : Memory Cell) (run : Except Stop Nat × Download σ) :
    Prop where
  tracks : Tracks block run.2
  recorded : AllRecorded run.2
  reports : Reports run.1 (progressOf run.2.exchanges)

theorem AllRecorded.snoc {download : Download σ} (all : AllRecorded download)
    {exchange : Exchange} (recorded : Recorded exchange) (hw : Hw σ) :
    AllRecorded { download with
      hw := hw
      exchanges := download.exchanges ++ [exchange] } :=
  forall_mem_snoc.mpr ⟨all, recorded⟩

theorem Recorded.not_negative {exchange : Exchange}
    (recorded : Recorded exchange) : ¬ exchange.status < 0 := by
  rcases recorded.status with zero | one
  · rw [zero]
    decide
  · rw [one]
    decide

/-- A refused reply changes neither the block nor the stores. -/
theorem Tracks.refuse {block : Memory Cell} {download : Download σ}
    (tracks : Tracks block download) (exchange : Exchange) (hw : Hw σ)
    (unchanged : ((progressOf download.exchanges).next exchange).file =
      (progressOf download.exchanges).file) :
    Tracks block { download with
      hw := hw
      exchanges := download.exchanges ++ [exchange] } where
  block_eq := by
    rw [progressOf_snoc, unchanged]
    exact tracks.block_eq
  tiles := by
    rw [progressOf_snoc, unchanged]
    exact tracks.tiles

/-- Storing an accepted chunk extends the block by the bytes the replies add to
the file. -/
theorem Tracks.accept {block : Memory Cell} {download : Download σ}
    (tracks : Tracks block download) {exchange : Exchange} (hw : Hw σ)
    (extended : ((progressOf download.exchanges).next exchange).file =
      (progressOf download.exchanges).file ++
        exchange.reply.cell.read responseSize exchange.reply.readSize) :
    Tracks block (Download.storeChunk
      (progressOf download.exchanges).file.length exchange.reply
      { download with
        hw := hw
        exchanges := download.exchanges ++ [exchange] }) where
  block_eq := by
    rw [Download.block_storeChunk, tracks.block_eq, Memory.copy_ofList, ← extended,
      ← progressOf_snoc]
    rfl
  tiles := by
    change Tiles 0 (download.writes ++ [(_, _)])
      (progressOf (download.exchanges ++ [exchange])).file.length
    rw [progressOf_snoc, extended, List.length_append, Memory.length_read]
    exact tracks.tiles.snoc _

theorem Progress.next_reading_refused {progress : Progress} {total : Nat}
    (exchange : Exchange) (reading : progress.phase = .reading total)
    (refuses : exchange.reply.result ≠ 0 ∨
      allowance total progress.file < exchange.reply.readSize) :
    progress.next exchange = { progress with phase := .refused } := by
  rw [next, reading]
  exact if_pos refuses

theorem Progress.next_reading_accepted {progress : Progress} {total : Nat}
    (exchange : Exchange) (reading : progress.phase = .reading total)
    (accepts : ¬ (exchange.reply.result ≠ 0 ∨
      allowance total progress.file < exchange.reply.readSize)) :
    progress.next exchange =
      { progress with
        file := progress.file ++
          exchange.reply.cell.read responseSize exchange.reply.readSize } := by
  rw [next, reading]
  exact if_neg accepts

/-- A round whose reply is refused ends the download with zero. -/
theorem chunkLoop_refused {bound total rounds offset remaining : Nat}
    {download next : Download σ} {answer : Int × Message}
    (missing : remaining ≠ 0)
    (outcome : attkbExchange device bound offset
      (min remaining alignedMaxTransferBuffer) download = (.ok answer, next))
    (refuses : answer.2.result ≠ 0 ∨
      min remaining alignedMaxTransferBuffer < answer.2.readSize) :
    chunkLoop device bound total (rounds + 1) offset remaining download =
      (.ok 0, next) := by
  rw [chunkLoop, if_neg missing, reqSize_exact, Exec.bind_of_ok outcome]
  rcases refuses with failed | oversize
  · rw [if_pos (Or.inr failed)]
    rfl
  · rw [if_pos (Or.inr oversize), ite_self]
    rfl

/-- A round whose reply is accepted stores the chunk and goes on behind it. -/
theorem chunkLoop_accepted {bound total rounds offset remaining : Nat}
    {download next : Download σ} {answer : Int × Message}
    (missing : remaining ≠ 0) (small : offset + remaining < 2 ^ 16)
    (outcome : attkbExchange device bound offset
      (min remaining alignedMaxTransferBuffer) download = (.ok answer, next))
    (notNegative : ¬ answer.1 < 0)
    (accepts : ¬ (answer.2.result ≠ 0 ∨
      min remaining alignedMaxTransferBuffer < answer.2.readSize)) :
    chunkLoop device bound total (rounds + 1) offset remaining download =
      chunkLoop device bound total rounds (offset + answer.2.readSize)
        (remaining - answer.2.readSize) (next.storeChunk offset answer.2) := by
  rw [not_or, not_not, Nat.not_lt] at accepts
  obtain ⟨succeeded, within⟩ := accepts
  obtain ⟨offsetFits, remainingFits⟩ :=
    counters_exact small (Nat.le_trans within (Nat.min_le_left _ _))
  rw [chunkLoop, if_neg missing, reqSize_exact, Exec.bind_of_ok outcome,
    if_neg (by simp [notNegative, succeeded]), if_neg (by omega), offsetFits,
    remainingFits, Exec.modify_bind_apply]

/-- The chunk loop follows the replies from any point it can be at: `offset`
bytes accepted, `remaining` still to come. -/
theorem chunkLoop_follows (bound total rounds : Nat) {block : Memory Cell}
    {offset remaining : Nat} {download : Download σ}
    (tracks : Tracks block download) (all : AllRecorded download)
    (reading : (progressOf download.exchanges).phase = .reading total)
    (reached : (progressOf download.exchanges).file.length = offset)
    (balance : offset + remaining = total) (small : total < 2 ^ 16)
    (positive : total ≠ 0) :
    Follows block (chunkLoop device bound total rounds offset remaining
      download) := by
  induction rounds generalizing offset remaining download with
  | zero =>
      refine ⟨tracks, all, ?_⟩
      change (progressOf download.exchanges).phase ≠ .refused
      rw [reading]
      simp
  | succ rounds ih =>
      by_cases finished : remaining = 0
      · rw [chunkLoop, if_pos finished]
        refine ⟨tracks, all, Or.inr ⟨positive, reading, ?_⟩⟩
        change (progressOf download.exchanges).file.length = total
        omega
      · have allowed : Progress.allowance total
            (progressOf download.exchanges).file =
              min remaining alignedMaxTransferBuffer := by
          rw [Progress.allowance, reached, ← balance, Nat.add_sub_cancel_left]
        rcases attkbExchange_cases device bound offset
            (min remaining alignedMaxTransferBuffer) download with
          ⟨reason, hw, outcome⟩ | ⟨answer, hw, recorded, outcome⟩
        · rw [chunkLoop, if_neg finished, reqSize_exact,
            Exec.bind_of_error outcome]
          refine ⟨⟨tracks.block_eq, tracks.tiles⟩, all, ?_⟩
          change (progressOf download.exchanges).phase ≠ .refused
          rw [reading]
          simp
        · let exchange : Exchange := ⟨offset,
            min remaining alignedMaxTransferBuffer, answer.1, answer.2⟩
          by_cases refuses : answer.2.result ≠ 0 ∨
              min remaining alignedMaxTransferBuffer < answer.2.readSize
          · have refused := Progress.next_reading_refused exchange reading
              (by rw [allowed]; exact refuses)
            rw [chunkLoop_refused device finished outcome refuses]
            refine ⟨tracks.refuse exchange hw (by rw [refused]),
              all.snoc recorded hw, Or.inl ⟨rfl, ?_⟩⟩
            change (progressOf (download.exchanges ++ [exchange])).phase = .refused
            rw [progressOf_snoc, refused]
          · have accepted := Progress.next_reading_accepted exchange reading
              (by rw [allowed]; exact refuses)
            rw [chunkLoop_accepted device finished (by omega) outcome
              recorded.not_negative refuses]
            have stored := tracks.accept hw (by rw [accepted])
            rw [reached] at stored
            refine ih stored (all.snoc recorded hw) ?_ ?_ (by omega)
            · change (progressOf (download.exchanges ++ [exchange])).phase = _
              rw [progressOf_snoc, accepted]
              exact reading
            · change (progressOf (download.exchanges ++ [exchange])).file.length = _
              rw [progressOf_snoc, accepted, List.length_append,
                Memory.length_read, reached]

theorem Tracks.start (hw : Hw σ) (block : Memory Cell) :
    Tracks block (Download.start hw block) where
  block_eq := rfl
  tiles := Tiles.nil 0

theorem getAttkbSize_refused {bound : Nat} {download next : Download σ}
    {answer : Int × Message}
    (outcome : attkbExchange device bound 0 0 download = (.ok answer, next))
    (notNegative : ¬ answer.1 < 0)
    (refuses : answer.2.result ≠ 0 ∨ answer.2.totalFileSize = 0) :
    getAttkbSize device bound download = (.ok 0, next) := by
  rw [getAttkbSize, Exec.bind_of_ok outcome]
  by_cases failed : answer.2.result ≠ 0
  · rw [if_pos (Or.inr failed)]
    rfl
  · rw [if_neg (not_or.mpr ⟨notNegative, failed⟩),
      refuses.resolve_left failed]
    rfl

theorem getAttkbSize_reported {bound : Nat} {download next : Download σ}
    {answer : Int × Message}
    (outcome : attkbExchange device bound 0 0 download = (.ok answer, next))
    (notNegative : ¬ answer.1 < 0) (succeeded : answer.2.result = 0) :
    getAttkbSize device bound download = (.ok answer.2.totalFileSize, next) := by
  rw [getAttkbSize, Exec.bind_of_ok outcome,
    if_neg (by simp [notNegative, succeeded])]
  rfl

/-- On every device, for every bound on the loops, `get_attkb` follows the
replies it gets. -/
theorem getAttkb_follows (bound : Nat) (hw : Hw σ) (block : Memory Cell) :
    Follows block (getAttkb device bound false (Download.start hw block)) := by
  have tracks := Tracks.start hw block
  have all : AllRecorded (Download.start hw block) :=
    fun _ member => absurd member List.not_mem_nil
  rw [getAttkb, if_neg Bool.false_ne_true]
  rcases attkbExchange_cases device bound 0 0 (Download.start hw block) with
    ⟨reason, after, outcome⟩ | ⟨answer, after, recorded, outcome⟩
  · have sizeStopped : getAttkbSize device bound (Download.start hw block) =
        (.error reason, { Download.start hw block with hw := after }) := by
      rw [getAttkbSize, Exec.bind_of_error outcome]
    rw [Exec.bind_of_error sizeStopped]
    refine ⟨⟨tracks.block_eq, tracks.tiles⟩, all, ?_⟩
    change Phase.asking ≠ .refused
    simp
  · have notNegative : ¬ answer.1 < 0 := recorded.not_negative
    let exchange : Exchange := ⟨0, 0, answer.1, answer.2⟩
    have unchanged : (Progress.initial.next exchange).file = [] := by
      rw [Progress.next]
      change (if _ then _ else _ : Progress).file = []
      split <;> rfl
    have asked := tracks.refuse exchange after unchanged
    have all' := all.snoc recorded after
    by_cases refuses : answer.2.result ≠ 0 ∨ answer.2.totalFileSize = 0
    · rw [Exec.bind_of_ok (getAttkbSize_refused device outcome notNegative refuses)]
      refine ⟨asked, all', Or.inl ⟨rfl, ?_⟩⟩
      change (Progress.initial.next exchange).phase = .refused
      rw [Progress.next]
      exact congrArg Progress.phase (if_pos refuses)
    · rw [not_or, not_not] at refuses
      rw [Exec.bind_of_ok (getAttkbSize_reported device outcome notNegative refuses.1),
        if_neg refuses.2]
      refine chunkLoop_follows device bound _ bound asked all' ?_
        ?_ (Nat.zero_add _) answer.2.totalFileSize_lt refuses.2
      · change (Progress.initial.next exchange).phase = _
        rw [Progress.next]
        exact congrArg Progress.phase (if_neg (by simp [exchange, refuses]))
      · exact congrArg List.length unchanged

end SandPlatform.Heci
