import Mathlib.Logic.Relation
import SandPlatform.Heci.Accesses
import SandPlatform.Heci.Mailbox
import SandPlatform.Heci.Progress

/-!
# Rounds of the chunk loop

A round asks for a chunk and, if the reply is accepted, goes on with what remains.
The amount that remains is lowered by what the reply says it carries, so the loop
comes to its end on every device that never passes off nothing as a chunk.
-/

namespace SandPlatform.Heci

open SandPlatform.Foundation
open SandPlatform.Hardware
open SandPlatform.Kernel

universe u

variable {σ : Type u}

/-! ## Rounds -/

/-- What `get_attkb` carries from one round to the next. -/
structure ChunkRound (σ : Type u) where
  offset : Nat
  remaining : Nat
  download : Download σ

namespace ChunkRound

/-- `req_size`. -/
def reqSize (round : ChunkRound σ) : Nat :=
  min round.remaining alignedMaxTransferBuffer % 2 ^ 16

/-- Neither check of the loop finds fault with the answer. -/
def Accepts (round : ChunkRound σ) (answer : Int × Message) : Prop :=
  ¬ (answer.1 < 0 ∨ answer.2.result ≠ 0) ∧
    ¬ (round.remaining < answer.2.readSize ∨ round.reqSize < answer.2.readSize)

/-- The round behind an accepted answer. -/
def advance (round : ChunkRound σ) (answer : Int × Message) (after : Download σ) :
    ChunkRound σ where
  offset := (round.offset + answer.2.readSize) % 2 ^ 32
  remaining := (round.remaining + 2 ^ 32 - answer.2.readSize) % 2 ^ 32
  download := after.storeChunk round.offset answer.2

end ChunkRound

variable (device : Device σ)

namespace ChunkRound

/-- The exchange of a round returns. -/
def Answered (round : ChunkRound σ) (answer : Int × Message) (after : Download σ) :
    Prop :=
  ∃ bound, attkbExchange device bound round.offset round.reqSize round.download =
    (.ok answer, after)

/-- The rest of the loop from a round on. -/
def loop (bound total rounds : Nat) (round : ChunkRound σ) :
    Except Stop Nat × Download σ :=
  chunkLoop device bound total rounds round.offset round.remaining round.download

/-- One iteration that does not leave the loop. -/
inductive GoesOn : ChunkRound σ → ChunkRound σ → Prop
  | accepted {round : ChunkRound σ} {answer : Int × Message} {after : Download σ}
      (missing : round.remaining ≠ 0) (answered : round.Answered device answer after)
      (accepts : round.Accepts answer) : GoesOn round (round.advance answer after)

/-- The rounds of a download of a file of the reported size. -/
inductive Reached (start : Download σ) (total : Nat) : ChunkRound σ → Prop
  | first {bound : Nat} {asked : Download σ}
      (reported : getAttkbSize device bound start = (.ok total, asked))
      (positive : total ≠ 0) : Reached start total ⟨0, total, asked⟩
  | next {round later : ChunkRound σ} (reached : Reached start total round)
      (goesOn : GoesOn device round later) : Reached start total later

/-- The iteration makes `get_attkb` return zero, or leads to a round with less
remaining. -/
def Lowers (total : Nat) (round : ChunkRound σ) : Prop :=
  ∀ bound answer after,
    attkbExchange device bound round.offset round.reqSize round.download =
      (.ok answer, after) →
    (∀ rounds, round.loop device bound total (rounds + 1) = (.ok 0, after)) ∨
      ∃ later, GoesOn device round later ∧ later.remaining < round.remaining ∧
        ∀ rounds, round.loop device bound total (rounds + 1) =
          later.loop device bound total rounds

end ChunkRound

/-! ## What is asked of a device and of the loop -/

/-- Every exchange of the download returns. -/
structure Responsive (start : Download σ) : Prop where
  query : ∃ bound answer after,
    attkbExchange device bound 0 0 start = (.ok answer, after)
  chunks : ∀ total round, ChunkRound.Reached device start total round →
    round.remaining ≠ 0 → ∃ answer after, round.Answered device answer after

/-- The download comes to its end, by iterations that return zero or lower what
remains, after at most one exchange for each byte of the reported size. -/
structure Terminates (start : Download σ) : Prop where
  returns : Exec.Achieves (fun bound => getAttkb device bound false) start
    fun _ _ => True
  decreases : ∀ total round, ChunkRound.Reached device start total round →
    round.remaining ≠ 0 → round.Lowers device total
  few : ∀ bound total asked, getAttkbSize device bound start = (.ok total, asked) →
    ∀ bound', (getAttkb device bound' false start).2.exchanges.length ≤
      asked.exchanges.length + total

/-- No reply to a chunk request reports success and carries nothing. -/
def NeverEmpty (start : Download σ) : Prop :=
  ∀ total round answer after, ChunkRound.Reached device start total round →
    round.remaining ≠ 0 → round.Answered device answer after →
    ¬ (answer.2.result = 0 ∧ answer.2.readSize = 0)

/-! ## One round -/

namespace ChunkRound

variable {device} {start : Download σ} {total : Nat} {round : ChunkRound σ}
variable {answer : Int × Message} {after : Download σ}

theorem reqSize_eq (round : ChunkRound σ) :
    round.reqSize = min round.remaining alignedMaxTransferBuffer :=
  reqSize_exact _

theorem getAttkbSize_lt (bound : Nat) :
    Exec.Yields (· < 2 ^ 16) (getAttkbSize device bound) := by
  refine Exec.yields_bind fun answer => ?_
  apply Exec.yields_ite
  · exact Exec.yields_pure (by decide)
  · exact Exec.yields_pure answer.2.totalFileSize_lt

/-- What is accepted and what remains make up the file. -/
theorem Reached.balance (reached : Reached device start total round) :
    round.offset + round.remaining = total ∧ total < 2 ^ 16 := by
  induction reached with
  | @first bound asked reported positive =>
      exact ⟨Nat.zero_add _, getAttkbSize_lt bound _ _ _ reported⟩
  | @next round later reached goesOn ih =>
      obtain ⟨exact, small⟩ := ih
      cases goesOn with
      | accepted missing answered accepts =>
          obtain ⟨_, within⟩ := accepts
          refine ⟨?_, small⟩
          simp only [advance]
          omega

/-- An accepted answer moves the offset on by what it carries. -/
theorem advance_exact (after : Download σ) (reached : Reached device start total round)
    (accepts : round.Accepts answer) :
    (round.advance answer after).offset = round.offset + answer.2.readSize ∧
      (round.advance answer after).remaining = round.remaining - answer.2.readSize := by
  obtain ⟨exact, small⟩ := reached.balance
  obtain ⟨_, within⟩ := accepts
  exact counters_exact (by omega) (by omega)

/-! ## Rounds in order -/

/-- A round goes on in at most one way, whatever the bounds. -/
theorem goesOn_unique : Relator.RightUnique (GoesOn device) := by
  intro round later later' goesOn goesOn'
  cases goesOn with
  | accepted _ answered _ =>
      cases goesOn' with
      | accepted _ answered' _ =>
          obtain ⟨bound, returned⟩ := answered
          obtain ⟨bound', returned'⟩ := answered'
          obtain ⟨rfl, rfl⟩ := attkbExchange_unique returned returned'
          rfl

/-- All rounds of a download follow from its first one. -/
theorem follows_first {bound : Nat} {asked : Download σ}
    (reported : getAttkbSize device bound start = (.ok total, asked))
    (reached : Reached device start total round) :
    Relation.ReflTransGen (GoesOn device) ⟨0, total, asked⟩ round := by
  induction reached with
  | first reported' _ =>
      obtain ⟨_, rfl⟩ := getAttkbSize_unique reported reported'
      exact .refl
  | next _ goesOn ih => exact ih.tail goesOn

theorem reached_of_follows {later : ChunkRound σ} (reached : Reached device start total round)
    (follows : Relation.ReflTransGen (GoesOn device) round later) :
    Reached device start total later := by
  induction follows with
  | refl => exact reached
  | tail _ goesOn ih => exact ih.next goesOn

/-- The offset never decreases. -/
theorem offset_le_of_follows {later : ChunkRound σ}
    (reached : Reached device start total round)
    (follows : Relation.ReflTransGen (GoesOn device) round later) :
    round.offset ≤ later.offset := by
  induction follows with
  | refl => exact Nat.le_refl _
  | tail follows goesOn ih =>
      have before := reached_of_follows reached follows
      cases goesOn with
      | @accepted answer after missing answered accepts =>
          have exact := (advance_exact after before accepts).1
          omega

/-- One of two rounds follows from the other. -/
theorem reached_comparable {round' : ChunkRound σ}
    (reached : Reached device start total round)
    (reached' : Reached device start total round') :
    Relation.ReflTransGen (GoesOn device) round round' ∨
      Relation.ReflTransGen (GoesOn device) round' round := by
  have reported : ∃ bound asked, getAttkbSize device bound start = (.ok total, asked) := by
    induction reached with
    | first reported _ => exact ⟨_, _, reported⟩
    | next _ _ ih => exact ih
  obtain ⟨bound, asked, reported⟩ := reported
  exact Relation.ReflTransGen.total_of_right_unique goesOn_unique
    (follows_first reported reached) (follows_first reported reached')

/-! ## Returns and refusals -/

/-- The status of an exchange is not negative, and the exchange is put on record. -/
theorem Answered.recorded (answered : round.Answered device answer after) :
    ¬ answer.1 < 0 ∧ after.exchanges.length = round.download.exchanges.length + 1 := by
  obtain ⟨bound, returned⟩ := answered
  rcases attkbExchange_cases device bound round.offset round.reqSize round.download with
    ⟨reason, hw, stopped⟩ | ⟨other, hw, recorded, made⟩
  · rw [stopped] at returned
    cases returned
  · rw [made] at returned
    cases returned
    exact ⟨recorded.not_negative, List.length_append⟩

theorem accepts_iff (answered : round.Answered device answer after) :
    round.Accepts answer ↔
      ¬ (answer.2.result ≠ 0 ∨ round.reqSize < answer.2.readSize) := by
  have notNegative := answered.recorded.1
  have atMost : round.reqSize ≤ round.remaining := by
    rw [reqSize_eq]
    exact Nat.min_le_left _ _
  rw [Accepts]
  constructor
  · rintro ⟨succeeds, within⟩ (failed | oversize)
    · exact succeeds (Or.inr failed)
    · exact within (Or.inr oversize)
  · intro accepted
    obtain ⟨succeeds, within⟩ := not_or.mp accepted
    exact ⟨not_or.mpr ⟨notNegative, succeeds⟩, by omega⟩

/-- A refused answer makes `get_attkb` return zero. -/
theorem loop_refused {bound rounds : Nat} (missing : round.remaining ≠ 0)
    (returned : attkbExchange device bound round.offset round.reqSize round.download =
      (.ok answer, after)) (refuses : ¬ round.Accepts answer) :
    round.loop device bound total (rounds + 1) = (.ok 0, after) := by
  rw [accepts_iff ⟨bound, returned⟩, not_not] at refuses
  rw [reqSize_eq] at returned refuses
  exact chunkLoop_refused device missing returned refuses

/-- An accepted answer leads to the next round. -/
theorem loop_accepted {bound rounds : Nat} (reached : Reached device start total round)
    (missing : round.remaining ≠ 0)
    (returned : attkbExchange device bound round.offset round.reqSize round.download =
      (.ok answer, after)) (accepts : round.Accepts answer) :
    round.loop device bound total (rounds + 1) =
      (round.advance answer after).loop device bound total rounds := by
  have answered : round.Answered device answer after := ⟨bound, returned⟩
  have small := reached.balance
  have exact := advance_exact after reached accepts
  rw [accepts_iff answered] at accepts
  rw [reqSize_eq] at returned accepts
  rw [loop, loop, exact.1, exact.2]
  exact chunkLoop_accepted device missing (by omega) returned answered.recorded.1 accepts

/-- An exchange that does not return is not put on record. -/
theorem loop_stopped (total rounds : Nat) {bound : Nat} {reason : Stop}
    (missing : round.remaining ≠ 0)
    (outcome : attkbExchange device bound round.offset round.reqSize round.download =
      (.error reason, after)) :
    round.loop device bound total (rounds + 1) = (.error reason, after) ∧
      after.exchanges = round.download.exchanges := by
  constructor
  · rw [loop, chunkLoop, if_neg missing]
    exact Exec.bind_of_error outcome
  · rcases attkbExchange_cases device bound round.offset round.reqSize round.download
      with ⟨reason', hw, stopped⟩ | ⟨answer, hw, _, made⟩
    · rw [stopped] at outcome
      cases outcome
      rfl
    · rw [made] at outcome
      cases outcome

/-- With no empty chunk, a round that goes on lowers what remains. -/
theorem remaining_lt (neverEmpty : NeverEmpty device start) {later : ChunkRound σ}
    (reached : Reached device start total round) (goesOn : GoesOn device round later) :
    later.remaining < round.remaining := by
  cases goesOn with
  | @accepted answer after missing answered accepts =>
      have exact := (advance_exact after reached accepts).2
      have carries : answer.2.readSize ≠ 0 := by
        intro empty
        have succeeds : answer.2.result = 0 :=
          not_not.mp (not_or.mp accepts.1).2
        exact neverEmpty total round answer after reached missing answered
          ⟨succeeds, empty⟩
      omega

theorem lowers (neverEmpty : NeverEmpty device start)
    (reached : Reached device start total round) (missing : round.remaining ≠ 0) :
    round.Lowers device total := by
  intro bound answer after returned
  by_cases accepts : round.Accepts answer
  · have goesOn := GoesOn.accepted missing ⟨bound, returned⟩ accepts
    refine Or.inr ⟨_, goesOn, remaining_lt neverEmpty reached goesOn, fun rounds => ?_⟩
    exact loop_accepted reached missing returned accepts
  · exact Or.inl fun rounds => loop_refused missing returned accepts

/-- An iteration with an empty chunk neither leaves the loop nor lowers what
remains. -/
theorem not_lowers_of_empty (reached : Reached device start total round)
    (missing : round.remaining ≠ 0) (answered : round.Answered device answer after)
    (succeeds : answer.2.result = 0) (nothing : answer.2.readSize = 0) :
    ¬ round.Lowers device total := by
  intro lowers
  have accepts : round.Accepts answer := by
    rw [accepts_iff answered]
    simp [succeeds, nothing]
  obtain ⟨bound, returned⟩ := answered
  rcases lowers bound answer after returned with zero | ⟨later, goesOn, fewer, _⟩
  · have stays : (round.advance answer after).loop device bound total 0 =
        (.ok 0, after) :=
      (loop_accepted reached missing returned accepts).symm.trans (zero 0)
    cases stays
  · obtain rfl := goesOn_unique goesOn (.accepted missing ⟨bound, returned⟩ accepts)
    have exact := (advance_exact after reached accepts).2
    omega

/-- The exchanges from a round on are at most the bytes that remain. -/
theorem loop_few (neverEmpty : NeverEmpty device start)
    (reached : Reached device start total round) (bound rounds : Nat) :
    (round.loop device bound total rounds).2.exchanges.length ≤
      round.download.exchanges.length + round.remaining := by
  induction rounds generalizing round with
  | zero => exact Nat.le_add_right _ _
  | succ rounds ih =>
      by_cases finished : round.remaining = 0
      · rw [loop, chunkLoop, if_pos finished]
        exact Nat.le_add_right _ _
      · rcases outcome : attkbExchange device bound round.offset round.reqSize
            round.download with ⟨reason | answer, after⟩
        · obtain ⟨stopped, same⟩ := loop_stopped total rounds finished outcome
          rw [stopped]
          simp [same]
        · have answered : round.Answered device answer after := ⟨bound, outcome⟩
          have recorded := answered.recorded.2
          by_cases accepts : round.Accepts answer
          · have goesOn := GoesOn.accepted finished answered accepts
            have fewer := remaining_lt neverEmpty reached goesOn
            have rest := ih (reached.next goesOn)
            have stored : (round.advance answer after).download.exchanges =
                after.exchanges := rfl
            rw [stored] at rest
            rw [loop_accepted reached finished outcome accepts]
            omega
          · rw [loop_refused finished outcome accepts]
            change after.exchanges.length ≤ _
            omega

/-- The loop comes to its end from every round, by induction on what remains. -/
theorem loop_returns (responsive : Responsive device start)
    (neverEmpty : NeverEmpty device start) (reached : Reached device start total round)
    (extra : Nat) :
    Exec.Achieves
      (fun rounds => chunkLoop device (rounds + extra) total rounds round.offset
        round.remaining) round.download fun _ _ => True := by
  induction amount : round.remaining using Nat.strongRecOn
    generalizing round extra with
  | ind remaining ih =>
    subst amount
    apply Exec.achieves_of_succ
    by_cases finished : round.remaining = 0
    · apply Exec.achieves_if_pos finished
      exact Exec.achieves_pure trivial
    · obtain ⟨answer, after, answered⟩ := responsive.chunks total round reached finished
      obtain ⟨bound, returned⟩ := answered
      have exchanged := (Exec.achieves_of_extends
        (fun _ _ le => attkbExchange_extends device round.offset round.reqSize le)
        returned).shift fun rounds => Nat.le_add_right rounds (1 + extra)
      simp only [← Nat.add_assoc] at exchanged
      apply Exec.achieves_if_neg finished
      refine exchanged.bind ?_
      rintro answer after ⟨rfl, rfl⟩
      by_cases accepts : round.Accepts answer
      · apply Exec.achieves_if_neg accepts.1
        apply Exec.achieves_if_neg accepts.2
        have goesOn := GoesOn.accepted finished ⟨bound, returned⟩ accepts
        have fewer := remaining_lt neverEmpty reached goesOn
        have rest := ih _ fewer (reached.next goesOn) (1 + extra) rfl
        simp only [← Nat.add_assoc] at rest
        have stores : Exec.Achieves
            (fun _ => (Exec.modify (Download.storeChunk round.offset answer.2) :
              Exec Stop (Download σ) Unit)) after
            fun _ next => next = after.storeChunk round.offset answer.2 :=
          Exec.achieves_modify rfl
        refine stores.bind ?_
        rintro _ _ rfl
        exact rest
      · by_cases failed : answer.1 < 0 ∨ answer.2.result ≠ 0
        · apply Exec.achieves_if_pos failed
          exact Exec.achieves_pure trivial
        · apply Exec.achieves_if_neg failed
          have oversize := not_and.mp accepts failed
          apply Exec.achieves_if_pos (not_not.mp oversize)
          exact Exec.achieves_pure trivial

end ChunkRound

/-! ## The whole download -/

section Download

variable {device} {start : Download σ}

/-- A size query whose exchange returns settles the size. -/
theorem getAttkbSize_returned {bound : Nat} {answer : Int × Message}
    {after : Download σ}
    (returned : attkbExchange device bound 0 0 start = (.ok answer, after)) :
    ∃ total, getAttkbSize device bound start = (.ok total, after) := by
  rw [getAttkbSize, Exec.bind_of_ok returned]
  by_cases failed : answer.1 < 0 ∨ answer.2.result ≠ 0
  · exact ⟨0, by rw [if_pos failed]; rfl⟩
  · exact ⟨answer.2.totalFileSize, by rw [if_neg failed]; rfl⟩

/-- A size query puts one exchange on record if it returns, and none otherwise. -/
theorem getAttkbSize_cases (device : Device σ) (start : Download σ) (bound : Nat) :
    (∃ reason hw, getAttkbSize device bound start =
        (.error reason, { start with hw := hw })) ∨
      ∃ total asked, getAttkbSize device bound start = (.ok total, asked) ∧
        asked.exchanges.length = start.exchanges.length + 1 := by
  rcases attkbExchange_cases device bound 0 0 start with
    ⟨reason, hw, stopped⟩ | ⟨answer, hw, _, returned⟩
  · exact Or.inl ⟨reason, hw, Exec.bind_of_error stopped⟩
  · obtain ⟨total, reported⟩ := getAttkbSize_returned returned
    exact Or.inr ⟨total, _, reported, List.length_append⟩

/-- The exchanges of a whole run. -/
theorem exchanges_within (neverEmpty : NeverEmpty device start) {bound total : Nat}
    {asked : Download σ}
    (reported : getAttkbSize device bound start = (.ok total, asked)) (bound' : Nat) :
    (getAttkb device bound' false start).2.exchanges.length ≤
      asked.exchanges.length + total := by
  rw [getAttkb, if_neg Bool.false_ne_true]
  rcases getAttkbSize_cases device start bound' with
    ⟨reason, hw, stopped⟩ | ⟨total', asked', reported', _⟩
  · -- The query at the other bound has returned, with one exchange more.
    rw [Exec.bind_of_error stopped]
    change start.exchanges.length ≤ _
    rcases getAttkbSize_cases device start bound with
      ⟨_, _, stopped'⟩ | ⟨_, _, made, more⟩
    · rw [reported] at stopped'
      cases stopped'
    · rw [reported] at made
      cases made
      omega
  · obtain ⟨rfl, rfl⟩ := getAttkbSize_unique reported' reported
    rw [Exec.bind_of_ok reported']
    by_cases empty : total' = 0
    · rw [if_pos empty]
      exact Nat.le_add_right _ _
    · rw [if_neg empty]
      exact ChunkRound.loop_few neverEmpty (.first reported' empty) bound' bound'

theorem getAttkb_returns (responsive : Responsive device start)
    (neverEmpty : NeverEmpty device start) :
    Exec.Achieves (fun bound => getAttkb device bound false) start fun _ _ => True := by
  obtain ⟨bound, answer, after, returned⟩ := responsive.query
  obtain ⟨total, reported⟩ := getAttkbSize_returned returned
  apply Exec.achieves_if_neg Bool.false_ne_true
  have query := Exec.achieves_of_extends
    (fun _ _ le => getAttkbSize_extends device le) reported
  refine query.bind ?_
  rintro total asked ⟨rfl, rfl⟩
  by_cases empty : total = 0
  · apply Exec.achieves_if_pos empty
    exact Exec.achieves_pure trivial
  · apply Exec.achieves_if_neg empty
    exact ChunkRound.loop_returns responsive neverEmpty (.first reported empty) 0

/-- When every exchange returns, the loop terminates as promised exactly when no reply
to a chunk request reports success and carries nothing. -/
theorem terminates_iff (responsive : Responsive device start) :
    Terminates device start ↔ NeverEmpty device start := by
  constructor
  · intro terminates total round answer after reached missing answered empty
    exact ChunkRound.not_lowers_of_empty reached missing answered empty.1 empty.2
      (terminates.decreases total round reached missing)
  · intro neverEmpty
    constructor
    · exact getAttkb_returns responsive neverEmpty
    · exact fun _ _ => ChunkRound.lowers neverEmpty
    · exact fun _ _ _ => exchanges_within neverEmpty

end Download

/-! ## A device that stalls -/

/-- Answers every request with a file of five bytes and a chunk of none. -/
def stallingDevice : Device Mailbox where
  __ := mailboxDevice (fun _ => [replyHead responseSize, 0, 5, 0]) fun _ => true
  mapPhysical _ mailbox := (some 1, mailbox)

/-- A reply with a total of five bytes and none of them on board. -/
structure Stalls (answer : Int × Message) : Prop where
  status : answer.1 = 0
  result : answer.2.result = 0
  total : answer.2.totalFileSize = 5
  nothing : answer.2.readSize = 0

/-- A request of a size as the device gets it for the first time. -/
def firstExchange (size : Nat) : Except Stop (Int × Message) × Hw Mailbox :=
  heciSendwAck stallingDevice 4 (requestMessage 0 size) requestSize dataBufferSize
    biosFixedHostAddr biosSecAddr ⟨Mailbox.empty, []⟩

/-- The device stalls on requests of a size, and is as before. -/
structure StallsOn (size : Nat) : Prop where
  answer : (firstExchange size).1.toOption.map (fun answer =>
    (answer.1, answer.2.result, answer.2.totalFileSize, answer.2.readSize)) =
      some (0, 0, 5, 0)
  device : (firstExchange size).2.device = Mailbox.empty

theorem stallsOn_query : StallsOn 0 := by
  constructor
  · decide +kernel
  · rfl

theorem stallsOn_chunk : StallsOn 5 := by
  constructor
  · decide +kernel
  · rfl

/-- What happens at first happens always, since nothing depends on the log. -/
theorem StallsOn.exchange {size : Nat} (stalls : StallsOn size)
    {download : Download Mailbox} (quiet : download.hw.device = Mailbox.empty) :
    ∃ answer after, attkbExchange stallingDevice 4 0 size download = (.ok answer, after) ∧
      Stalls answer ∧ after.hw.device = Mailbox.empty := by
  have blind : LogBlind (heciSendwAck stallingDevice 4 (requestMessage 0 size) requestSize
      dataBufferSize biosFixedHostAddr biosSecAddr) :=
    MadeOfAccesses.logBlind (.heciSendwAck _ _ _ _ _ _)
  obtain ⟨sameResult, sameDevice⟩ := blind download.hw ⟨Mailbox.empty, []⟩ quiet
  have answered := stalls.answer
  have idle := sameDevice.trans stalls.device
  rw [firstExchange, ← sameResult] at answered
  rcases outcome : heciSendwAck stallingDevice 4 (requestMessage 0 size) requestSize
      dataBufferSize biosFixedHostAddr biosSecAddr download.hw with ⟨reason | answer, hw⟩
  · rw [outcome] at answered
    cases answered
  · rw [outcome] at answered idle
    have fields := Option.some.inj answered
    simp only [Prod.mk.injEq] at fields
    obtain ⟨status, result, total, nothing⟩ := fields
    exact ⟨answer, _, attkbExchange_returned stallingDevice download outcome,
      ⟨status, result, total, nothing⟩, idle⟩

/-- No bound makes a difference. -/
theorem StallsOn.answered {size bound : Nat} (stalls : StallsOn size)
    {download after : Download Mailbox} {answer : Int × Message}
    (quiet : download.hw.device = Mailbox.empty)
    (returned : attkbExchange stallingDevice bound 0 size download = (.ok answer, after)) :
    Stalls answer ∧ after.hw.device = Mailbox.empty := by
  obtain ⟨answer', after', returned', stalled, quiet'⟩ := stalls.exchange quiet
  obtain ⟨rfl, rfl⟩ := attkbExchange_unique returned returned'
  exact ⟨stalled, quiet'⟩

/-- The download on the device. -/
def stallingStart : Download Mailbox :=
  Download.start ⟨Mailbox.empty, []⟩ fun _ => Cell.zero

theorem stallingStart_quiet : stallingStart.hw.device = Mailbox.empty :=
  rfl

/-- A round in which nothing has been read. -/
structure Untouched (round : ChunkRound Mailbox) : Prop where
  offset : round.offset = 0
  remaining : round.remaining = 5
  quiet : round.download.hw.device = Mailbox.empty

theorem Untouched.reqSize {round : ChunkRound Mailbox} (untouched : Untouched round) :
    round.reqSize = 5 := by
  rw [ChunkRound.reqSize_eq, untouched.remaining]
  decide

theorem Untouched.answered {round : ChunkRound Mailbox} {answer : Int × Message}
    {after : Download Mailbox} (untouched : Untouched round)
    (answered : round.Answered stallingDevice answer after) :
    Stalls answer ∧ after.hw.device = Mailbox.empty := by
  obtain ⟨bound, returned⟩ := answered
  rw [untouched.offset, untouched.reqSize] at returned
  exact stallsOn_chunk.answered untouched.quiet returned

/-- The size is reported. -/
theorem stalling_reports {bound total : Nat} {asked : Download Mailbox}
    (reported : getAttkbSize stallingDevice bound stallingStart = (.ok total, asked)) :
    total = 5 ∧ asked.hw.device = Mailbox.empty := by
  obtain ⟨answer, after, returned, stalled, quiet⟩ :=
    stallsOn_query.exchange stallingStart_quiet
  have atFour := getAttkbSize_reported stallingDevice returned (by simp [stalled.status])
    stalled.result
  rw [stalled.total] at atFour
  obtain ⟨rfl, rfl⟩ := getAttkbSize_unique reported atFour
  exact ⟨rfl, quiet⟩

/-- The rounds on the device are all the same. -/
theorem untouched_of_reached {total : Nat} {round : ChunkRound Mailbox}
    (reached : ChunkRound.Reached stallingDevice stallingStart total round) :
    Untouched round := by
  induction reached with
  | first reported positive =>
      obtain ⟨total, quiet⟩ := stalling_reports reported
      exact ⟨rfl, total, quiet⟩
  | next reached goesOn ih =>
      cases goesOn with
      | accepted missing answered accepts =>
          obtain ⟨stalled, quiet⟩ := ih.answered answered
          obtain ⟨offset, remaining⟩ :=
            ChunkRound.advance_exact _ reached accepts
          rw [stalled.nothing] at offset remaining
          exact ⟨offset.trans ih.offset, remaining.trans ih.remaining, quiet⟩

theorem stalling_responsive : Responsive stallingDevice stallingStart where
  query := by
    obtain ⟨answer, after, returned, _⟩ :=
      stallsOn_query.exchange stallingStart_quiet
    exact ⟨4, answer, after, returned⟩
  chunks total round reached _ := by
    have untouched := untouched_of_reached reached
    obtain ⟨answer, after, returned, _⟩ := stallsOn_chunk.exchange untouched.quiet
    refine ⟨answer, after, 4, ?_⟩
    rw [untouched.offset, untouched.reqSize]
    exact returned

/-- No number of rounds is enough. -/
theorem stalling_loop {total : Nat} {round : ChunkRound Mailbox}
    (reached : ChunkRound.Reached stallingDevice stallingStart total round)
    (bound rounds size : Nat) :
    (round.loop stallingDevice bound total rounds).1 ≠ .ok size := by
  induction rounds generalizing round with
  | zero => simp [ChunkRound.loop, chunkLoop, Exec.stop]
  | succ rounds ih =>
      have untouched := untouched_of_reached reached
      have missing : round.remaining ≠ 0 := by simp [untouched.remaining]
      rcases outcome : attkbExchange stallingDevice bound round.offset round.reqSize
          round.download with ⟨reason | answer, after⟩
      · rw [(ChunkRound.loop_stopped total rounds missing outcome).1]
        simp
      · have answered : round.Answered stallingDevice answer after := ⟨bound, outcome⟩
        have stalled := (untouched.answered answered).1
        have accepts : round.Accepts answer := by
          rw [ChunkRound.accepts_iff answered]
          simp [stalled.result, stalled.nothing]
        rw [ChunkRound.loop_accepted reached missing outcome accepts]
        exact ih (reached.next (.accepted missing answered accepts))

/-- `get_attkb` never returns although every exchange does. -/
theorem stalling_never_returns :
    ¬ (Responsive stallingDevice stallingStart →
      Terminates stallingDevice stallingStart) := by
  intro claimed
  obtain ⟨size, final, _, bound, returns⟩ := (claimed stalling_responsive).returns
  have returned : getAttkb stallingDevice bound false stallingStart = (.ok size, final) :=
    returns bound (Nat.le_refl bound)
  rw [getAttkb, if_neg Bool.false_ne_true] at returned
  obtain ⟨total, asked, reported, rest⟩ := Exec.bind_eq_ok_iff.mp returned
  have nonzero : total ≠ 0 := by simp [(stalling_reports reported).1]
  rw [if_neg nonzero] at rest
  exact stalling_loop (.first reported nonzero) bound bound size (congrArg Prod.fst rest)

/-- Its chunk replies are empty. -/
theorem terminates_stalling_iff :
    Terminates stallingDevice stallingStart ↔ NeverEmpty stallingDevice stallingStart :=
  terminates_iff stalling_responsive

end SandPlatform.Heci
