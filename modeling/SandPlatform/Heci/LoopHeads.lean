import SandPlatform.Heci.Rounds

/-!
# The heads of the chunk loop

At every head of the loop the offset and what remains make up the file, the offset
fits its field of the request, and the chunks stored so far are the bytes up to the
offset, one chunk behind the other.  It does not matter how the loop is left: a run
that stops in the middle has stored what was stored at the last head.
-/

namespace SandPlatform.Heci

open SandPlatform.Foundation
open SandPlatform.Hardware
open SandPlatform.Kernel

universe u

/-! ## What holds at a head -/

namespace Message

/-! The fields of a `MCA_BOOTLOADER_READ_ATTKB_EX_Request`. -/

/-- Where the chunk that is asked for begins. -/
def requestOffset (message : Message) : Nat :=
  (Word.field (message.word 1) 0 16).toNat

/-- How many bytes are asked for. -/
def requestedSize (message : Message) : Nat :=
  (Word.field (message.word 1) 16 16).toNat

end Message

/-- Ranges that are stored one behind the other, do not overlap and are together the
bytes up to an offset. -/
structure StoredUpTo (offset : Nat) (writes : List (Nat × Nat)) : Prop where
  consecutive : Tiles 0 writes offset
  disjoint : writes.Pairwise fun first second => first.1 + first.2 ≤ second.1
  covered : ∀ i, (∃ range ∈ writes, range.1 ≤ i ∧ i < range.1 + range.2) ↔ i < offset

theorem StoredUpTo.of_tiles {offset : Nat} {writes : List (Nat × Nat)}
    (tiles : Tiles 0 writes offset) : StoredUpTo offset writes where
  consecutive := tiles
  disjoint := tiles.pairwise
  covered i := by simpa using tiles.exists_mem_iff i

variable {σ : Type u}

/-- The invariant of the chunk loop of a file of the reported size, over what was in
the block before.  A chunk is stored from right behind the response in `DataBuffer`. -/
structure HeadInvariant (block : Memory Cell) (total : Nat) (round : ChunkRound σ) :
    Prop where
  balance : round.offset + round.remaining = total
  small : round.offset ≤ 65535
  offset_sent :
    (requestMessage round.offset round.reqSize).requestOffset = round.offset
  size_sent : (requestMessage round.offset round.reqSize).requestedSize =
    min round.remaining alignedMaxTransferBuffer
  stored : StoredUpTo round.offset round.download.writes
  sources : ∀ range ∈ round.download.writes, responseSize + range.2 ≤ dataBufferSize
  untouched : ∀ i, round.offset ≤ i → round.download.block i = block i

/-- A run of `get_attkb` has stored what was stored at a head, which is the last one
with nothing remaining if the run returns a size. -/
structure EndsAt (total : Nat) (run : Except Stop Nat × Download σ)
    (last : ChunkRound σ) : Prop where
  block : run.2.block = last.download.block
  writes : run.2.writes = last.download.writes
  ended : ∀ size, run.1 = .ok size → size ≠ 0 → size = total ∧ last.remaining = 0

/-- A run that stores nothing and returns no size. -/
structure NeverEnters (start : Download σ) (run : Except Stop Nat × Download σ) :
    Prop where
  block : run.2.block = start.block
  writes : run.2.writes = start.writes
  ended : ∀ size, run.1 = .ok size → size = 0

/-! ## The requests -/

theorem requestOffset_eq {offset : Nat} (size : Nat) (small : offset < 2 ^ 16) :
    (requestMessage offset size).requestOffset = offset := by
  rw [Message.requestOffset, requestMessage, Message.word_ofWords, offset_requestWords,
    BitVec.toNat_ofNat, Nat.mod_eq_of_lt small]

theorem requestedSize_eq (offset : Nat) {size : Nat} (small : size < 2 ^ 16) :
    (requestMessage offset size).requestedSize = size := by
  rw [Message.requestedSize, requestMessage, Message.word_ofWords, size_requestWords,
    BitVec.toNat_ofNat, Nat.mod_eq_of_lt small]

/-! ## From head to head -/

section Heads

variable {device : Device σ} {hw : Hw σ} {block : Memory Cell} {total : Nat}
variable {round : ChunkRound σ}

/-- The same bytes are in the block, and the same ranges on record. -/
def HoldsStored (block : Memory Cell) (writes : List (Nat × Nat))
    (download : Download σ) : Prop :=
  download.block = block ∧ download.writes = writes

theorem attkbExchange_stores_nothing {bound offset size : Nat} {download after : Download σ}
    {ended : Except Stop (Int × Message)}
    (outcome : attkbExchange device bound offset size download = (ended, after)) :
    HoldsStored download.block download.writes after := by
  rcases attkbExchange_cases device bound offset size download with
    ⟨reason, hw, stopped⟩ | ⟨answer, hw, _, returned⟩
  · rw [stopped] at outcome
    cases outcome
    exact ⟨rfl, rfl⟩
  · rw [returned] at outcome
    cases outcome
    exact ⟨rfl, rfl⟩

theorem getAttkbSize_stores_nothing {bound : Nat} {download after : Download σ}
    {ended : Except Stop Nat}
    (outcome : getAttkbSize device bound download = (ended, after)) :
    HoldsStored download.block download.writes after := by
  rcases exchanged : attkbExchange device bound 0 0 download with ⟨reason | answer, next⟩
  · rw [getAttkbSize, Exec.bind_of_error exchanged] at outcome
    cases outcome
    exact attkbExchange_stores_nothing exchanged
  · rw [getAttkbSize, Exec.bind_of_ok exchanged] at outcome
    have kept := attkbExchange_stores_nothing exchanged
    split at outcome <;> cases outcome <;> exact kept

/-- The counters take care of themselves. -/
theorem HeadInvariant.of_stored
    (reached : ChunkRound.Reached device (Download.start hw block) total round)
    (tiles : Tiles 0 round.download.writes round.offset)
    (sources : ∀ range ∈ round.download.writes, responseSize + range.2 ≤ dataBufferSize)
    (untouched : ∀ i, round.offset ≤ i → round.download.block i = block i) :
    HeadInvariant block total round := by
  obtain ⟨balance, small⟩ := reached.balance
  have limited : round.reqSize ≤ round.remaining := by
    rw [ChunkRound.reqSize_eq]
    exact Nat.min_le_left _ _
  refine ⟨balance, by omega, requestOffset_eq _ (by omega), ?_, .of_tiles tiles, sources,
    untouched⟩
  rw [requestedSize_eq _ (by omega), ChunkRound.reqSize_eq]

/-- Behind an accepted chunk, by what was stored before it. -/
theorem HeadInvariant.next {answer : Int × Message} {after : Download σ}
    (invariant : HeadInvariant block total round)
    (reached : ChunkRound.Reached device (Download.start hw block) total round)
    (missing : round.remaining ≠ 0) (answered : round.Answered device answer after)
    (accepts : round.Accepts answer) :
    HeadInvariant block total (round.advance answer after) := by
  have exact := (ChunkRound.advance_exact after reached accepts).1
  have limited : answer.2.readSize ≤ alignedMaxTransferBuffer := by
    have within := accepts.2
    have most := Nat.min_le_right round.remaining alignedMaxTransferBuffer
    rw [ChunkRound.reqSize_eq] at within
    omega
  have same : HoldsStored round.download.block round.download.writes after := by
    obtain ⟨bound, returned⟩ := answered
    exact attkbExchange_stores_nothing returned
  have writes : (round.advance answer after).download.writes =
      round.download.writes ++ [(round.offset, answer.2.readSize)] := by
    rw [← same.2]
    rfl
  refine .of_stored (reached.next (.accepted missing answered accepts)) ?_ ?_ ?_
  · rw [writes, exact]
    exact invariant.stored.consecutive.snoc _
  · rw [writes]
    exact forall_mem_snoc.mpr ⟨invariant.sources, Nat.add_le_add_left limited _⟩
  · intro i behind
    rw [exact] at behind
    have stored : (round.advance answer after).download.block i = after.block i := by
      rw [ChunkRound.advance, Download.block_storeChunk,
        Memory.copy_apply_of_ge behind]
    rw [stored, same.1]
    exact invariant.untouched i (Nat.le_of_add_right_le behind)

theorem head_of_reached
    (reached : ChunkRound.Reached device (Download.start hw block) total round) :
    HeadInvariant block total round := by
  induction reached with
  | @first bound asked reported positive =>
      obtain ⟨same, nothing⟩ := getAttkbSize_stores_nothing reported
      refine .of_stored (.first reported positive) ?_ ?_ ?_
      · exact nothing ▸ Tiles.nil 0
      · rw [nothing]
        exact fun range member => absurd member List.not_mem_nil
      · exact fun i _ => congrFun same i
  | next reached goesOn ih =>
      cases goesOn with
      | accepted missing answered accepts => exact ih.next reached missing answered accepts

/-! ## Runs -/

/-- The rest of a run, from a head on. -/
theorem exists_endsAt (bound rounds : Nat)
    (reached : ChunkRound.Reached device (Download.start hw block) total round) :
    ∃ last, ChunkRound.Reached device (Download.start hw block) total last ∧
      EndsAt total (round.loop device bound total rounds) last := by
  induction rounds generalizing round with
  | zero =>
      refine ⟨round, reached, rfl, rfl, ?_⟩
      intro size stopped
      cases stopped
  | succ rounds ih =>
      by_cases finished : round.remaining = 0
      · rw [ChunkRound.loop, chunkLoop, if_pos finished]
        exact ⟨round, reached, rfl, rfl,
          fun size returned _ => ⟨(Except.ok.inj returned).symm, finished⟩⟩
      · rcases outcome : attkbExchange device bound round.offset round.reqSize
            round.download with ⟨reason | answer, after⟩
        · have kept := attkbExchange_stores_nothing outcome
          rw [(ChunkRound.loop_stopped total rounds finished outcome).1]
          refine ⟨round, reached, kept.1, kept.2, ?_⟩
          intro size stopped
          cases stopped
        · have kept := attkbExchange_stores_nothing outcome
          by_cases accepts : round.Accepts answer
          · rw [ChunkRound.loop_accepted reached finished outcome accepts]
            exact ih (reached.next (.accepted finished ⟨bound, outcome⟩ accepts))
          · rw [ChunkRound.loop_refused finished outcome accepts]
            exact ⟨round, reached, kept.1, kept.2,
              fun size returned positive =>
                absurd (Except.ok.inj returned).symm positive⟩

theorem getAttkb_ends (bound : Nat) (attkbIsNull : Bool) :
    NeverEnters (Download.start hw block)
        (getAttkb device bound attkbIsNull (Download.start hw block)) ∨
      ∃ total last, ChunkRound.Reached device (Download.start hw block) total last ∧
        EndsAt total (getAttkb device bound attkbIsNull (Download.start hw block))
          last := by
  cases attkbIsNull with
  | true => exact Or.inl ⟨rfl, rfl, fun _ returned => (Except.ok.inj returned).symm⟩
  | false =>
      rw [getAttkb, if_neg Bool.false_ne_true]
      rcases outcome : getAttkbSize device bound (Download.start hw block) with
        ⟨reason | total, asked⟩
      · have kept := getAttkbSize_stores_nothing outcome
        rw [Exec.bind_of_error outcome]
        refine Or.inl ⟨kept.1, kept.2, ?_⟩
        intro size stopped
        cases stopped
      · have kept := getAttkbSize_stores_nothing outcome
        rw [Exec.bind_of_ok outcome]
        by_cases empty : total = 0
        · rw [if_pos empty]
          exact Or.inl ⟨kept.1, kept.2,
            fun _ returned => (Except.ok.inj returned).symm⟩
        · rw [if_neg empty]
          obtain ⟨last, reached, ends⟩ :=
            exists_endsAt bound bound (.first outcome empty)
          exact Or.inr ⟨total, last, reached, ends⟩

/-- With enough iterations, `get_attkb` comes to every head. -/
theorem getAttkb_enters
    (reached : ChunkRound.Reached device (Download.start hw block) total round) :
    ∃ bound passed, ∀ large, bound ≤ large → passed ≤ large ∧
      getAttkb device large false (Download.start hw block) =
        round.loop device large total (large - passed) := by
  induction reached with
  | @first bound asked reported positive =>
      refine ⟨bound, 0, fun large enough => ⟨Nat.zero_le large, ?_⟩⟩
      have query := getAttkbSize_extends device enough _ _ _ reported
      rw [getAttkb, if_neg Bool.false_ne_true, Exec.bind_of_ok query, if_neg positive]
      rfl
  | @next round later reached goesOn ih =>
      obtain ⟨bound, passed, enters⟩ := ih
      cases goesOn with
      | @accepted answer after missing answered accepts =>
          obtain ⟨bound', returned⟩ := answered
          refine ⟨max bound (max bound' (passed + 1)), passed + 1, ?_⟩
          intro large enough
          have more : passed + 1 ≤ large := by omega
          have exchanged := attkbExchange_extends device round.offset round.reqSize
            (show bound' ≤ large by omega) _ _ _ returned
          have left : large - passed = large - (passed + 1) + 1 := by omega
          refine ⟨more, ?_⟩
          rw [(enters large (by omega)).2, left,
            ChunkRound.loop_accepted reached missing exchanged accepts]

end Heads

/-! ## The loop -/

/-- The invariant holds at every head, `get_attkb` comes to every head, and whatever it
has stored when it ends was stored at one. -/
structure LoopSound (device : Device σ) (hw : Hw σ) (block : Memory Cell) : Prop where
  heads : ∀ total round,
    ChunkRound.Reached device (Download.start hw block) total round →
      HeadInvariant block total round
  enters : ∀ total round,
    ChunkRound.Reached device (Download.start hw block) total round →
      ∃ bound passed, ∀ large, bound ≤ large → passed ≤ large ∧
        getAttkb device large false (Download.start hw block) =
          round.loop device large total (large - passed)
  ends : ∀ bound attkbIsNull,
    NeverEnters (Download.start hw block)
        (getAttkb device bound attkbIsNull (Download.start hw block)) ∨
      ∃ total last, ChunkRound.Reached device (Download.start hw block) total last ∧
        EndsAt total (getAttkb device bound attkbIsNull (Download.start hw block)) last
  whole : ∀ bound attkbIsNull size,
    (getAttkb device bound attkbIsNull (Download.start hw block)).1 = .ok size →
      size ≠ 0 → StoredUpTo size
        (getAttkb device bound attkbIsNull (Download.start hw block)).2.writes

/-- Whatever the security engine answers. -/
theorem chunkLoop_sound (device : Device σ) (hw : Hw σ) (block : Memory Cell) :
    LoopSound device hw block where
  heads _ _ := head_of_reached
  enters _ _ := getAttkb_enters
  ends := getAttkb_ends
  whole bound attkbIsNull size returned positive := by
    rcases getAttkb_ends bound attkbIsNull with never | ⟨total, last, reached, ends⟩
    · exact absurd (never.ended size returned) positive
    · obtain ⟨rfl, finished⟩ := ends.ended size returned positive
      have head := head_of_reached reached
      have atEnd : last.offset = size := by
        have balance := head.balance
        omega
      rw [ends.writes, ← atEnd]
      exact head.stored

end SandPlatform.Heci
