import SandPlatform.Heci.Mailbox

/-!
# Retrieval from a conforming device

Each routine of the driver gets one lemma that says how it moves a conforming
device from stage to stage.  They compose to one exchange, and the chunk loop
then assembles the file by induction on the number of bytes still missing.
-/

namespace SandPlatform.Heci

open SandPlatform.Foundation
open SandPlatform.Hardware
open SandPlatform.Kernel

universe u

/-! ## Words received into a buffer -/

namespace Message

/-- Store words at consecutive indices. -/
def storeAll : Nat → List (BitVec 32) → Message → Message
  | _, [], message => message
  | index, value :: rest, message =>
      storeAll (index + 1) rest (message.store index value)

theorem word_storeAll_of_lt {index i : Nat} (before : i < index)
    (values : List (BitVec 32)) (message : Message) :
    (storeAll index values message).word i = message.word i := by
  induction values generalizing index message with
  | nil => rfl
  | cons value rest ih =>
      rw [storeAll, ih (Nat.lt_succ_of_lt before),
        word_store_of_ne _ _ (Nat.ne_of_lt before)]

theorem word_storeAll (index : Nat) {i : Nat} {values : List (BitVec 32)}
    (inside : i < values.length) (message : Message) :
    (storeAll index values message).word (index + i) = values[i] := by
  induction values generalizing index i message with
  | nil => cases inside
  | cons value rest ih =>
      rw [storeAll]
      cases i with
      | zero =>
          change (storeAll (index + 1) rest _).word index = value
          rw [word_storeAll_of_lt (Nat.lt_add_one index), word_store_self]
      | succ i =>
          have shifted := ih (index + 1) (Nat.lt_of_succ_lt_succ inside)
            (message.store index value)
          rw [Nat.add_right_comm] at shifted
          exact shifted

end Message

/-! ## Stages of an exchange -/

section Exchange

variable {σ : Type u} {device : Device σ} {file : List (BitVec 8)}
  {At : Stage → σ → Prop}

namespace Conforming

/-- A register read outside the read window. -/
theorem achieves_read (conforming : Conforming device file At) {stage : Stage}
    {hw : Hw σ} (reached : At stage hw.device) (window : Window) (width : Width)
    (offset : Nat)
    (outside : ∀ base, (window, offset) ≠ (.heci base, secCbRw)) :
    Exec.Achieves (fun _ => readReg device window width offset) hw
      fun value after =>
        value = (device.read window width offset hw.device).1 ∧
          At stage after.device :=
  Exec.achieves_of_eq (readReg_apply device window width offset hw)
    ⟨rfl, conforming.read stage _ window width offset reached outside⟩

/-- A write that controls the device. -/
theorem achieves_write (conforming : Conforming device file At) {stage : Stage}
    {hw : Hw σ} (reached : At stage hw.device) (quiet : stage.Quiet)
    (window : Window) (width : Width) (offset : Nat) (value : BitVec 32)
    (control : ControlWrite window offset value) :
    Exec.Achieves (fun _ => writeReg device window width offset value) hw
      fun _ after => At stage after.device :=
  Exec.achieves_of_eq (writeReg_apply device window width offset value hw)
    (conforming.write stage _ window width offset value reached quiet control)

theorem achieves_heciPciRead8 (conforming : Conforming device file At)
    {hw : Hw σ} (idle : At (.collecting []) hw.device) (reg : Nat) :
    Exec.Achieves (fun _ => heciPciRead8 device reg) hw
      fun _ after => At (.collecting []) after.device := by
  refine (conforming.achieves_read idle _ _ _ (by simp)).bind ?_
  rintro value hw ⟨_, idle⟩
  exact Exec.achieves_pure idle

theorem achieves_heciPciEnable (conforming : Conforming device file At)
    {hw : Hw σ} (idle : At (.collecting []) hw.device) (command : BitVec 8) :
    Exec.Achieves (fun _ => heciPciEnable device command) hw
      fun _ after => At (.collecting []) after.device := by
  apply Exec.achieves_ite
  · refine (conforming.achieves_read idle _ _ _ (by simp)).bind ?_
    rintro old hw ⟨_, idle⟩
    exact conforming.achieves_write idle rfl _ _ _ _ (controlWrite_cse _ _)
  · exact Exec.achieves_pure idle

/-- A word written to the write window joins the frame. -/
theorem achieves_absorb (conforming : Conforming device file At) (base : Nat)
    (word : BitVec 32) {written : List (BitVec 32)} {hw : Hw σ}
    (reached : At (.collecting written) hw.device) :
    Exec.Achieves (fun _ => heciRegWrite device base hCbWw word) hw
      fun _ after => At (.collecting (written ++ [word])) after.device :=
  Exec.achieves_of_eq (writeReg_apply device _ _ _ _ hw)
    (conforming.absorb _ base word written reached)

/-- Setting the interrupt bit hands a frame over. -/
theorem achieves_ring (conforming : Conforming device file At) (base : Nat)
    {value : BitVec 32} {frame : List (BitVec 32)} {hw : Hw σ}
    (reached : At (.collecting frame) hw.device) (nonempty : frame ≠ [])
    (interrupt : HostCtrlReg.hIg value = 1) :
    Exec.Achieves (fun _ => heciRegWrite device base hCsr value) hw
      fun _ after => At (.pending frame) after.device :=
  Exec.achieves_of_eq (writeReg_apply device _ _ _ _ hw)
    (conforming.ring _ base value frame reached nonempty interrupt)

/-- Probing and mapping the register window succeeds between exchanges. -/
theorem achieves_heciGetBaseAddr (conforming : Conforming device file At)
    {hw : Hw σ} (idle : At (.collecting []) hw.device) :
    Exec.Achieves (fun _ => heciGetBaseAddr device) hw
      fun base after => base ≠ 0 ∧ At (.collecting []) after.device := by
  refine (conforming.achieves_read idle _ _ _ (by simp)).bind ?_
  rintro bar hw ⟨_, idle⟩
  refine (conforming.achieves_write idle rfl _ _ _ _ (controlWrite_cse _ _)).bind ?_
  intro _ hw idle
  refine (conforming.achieves_read idle _ _ _ (by simp)).bind ?_
  rintro _ hw ⟨_, idle⟩
  refine (conforming.achieves_write idle rfl _ _ _ _ (controlWrite_cse _ _)).bind ?_
  intro _ hw idle
  refine (conforming.achieves_read idle _ _ _ (by simp)).bind ?_
  rintro restored hw ⟨_, idle⟩
  refine (conforming.achieves_heciPciRead8 idle _).bind ?_
  intro command hw idle
  refine (conforming.achieves_heciPciEnable idle command).bind ?_
  intro _ hw idle
  rcases conforming.map _ _ (restored &&& 0xFFFFFFF0).toNat idle with
    ⟨base, mapped, nonzero, idle⟩
  have allocates : Exec.Achieves
      (fun _ => vmmAllocPhysical device (restored &&& 0xFFFFFFF0).toNat) hw
      fun result after => result = some base ∧ At (.collecting []) after.device :=
    Exec.achieves_of_eq (vmmAllocPhysical_apply device _ hw) ⟨mapped, idle⟩
  refine allocates.bind ?_
  rintro _ hw ⟨rfl, idle⟩
  exact Exec.achieves_pure ⟨nonzero, idle⟩

/-! ### Sending -/

/-- The data words of a fragment reach the device in order. -/
theorem achieves_sendWords (conforming : Conforming device file At) (base : Nat)
    (message : Message) (writeSize left index : Nat) {written : List (BitVec 32)}
    {hw : Hw σ} (reached : At (.collecting written) hw.device) :
    Exec.Achieves
      (fun _ => sendWords device base message writeSize left index) hw
      fun _ after => At (.collecting (written ++
        (List.range left).map fun i => message.word (index + i + writeSize)))
        after.device := by
  induction left generalizing index written hw with
  | zero =>
      rw [List.range_zero, List.map_nil, List.append_nil]
      exact Exec.achieves_pure reached
  | succ left ih =>
      refine (conforming.achieves_absorb base _ reached).bind ?_
      intro _ hw absorbed
      refine (ih (index + 1) absorbed).mono ?_
      intro _ after reached
      rw [List.append_assoc] at reached
      rw [List.range_succ_eq_map, List.map_cons, List.map_map]
      have shifted : ((fun i => message.word (index + i + writeSize)) ∘ Nat.succ) =
          fun i => message.word (index + 1 + i + writeSize) := by
        funext i
        change message.word (index + (i + 1) + writeSize) = _
        congr 1
        omega
      rw [shifted]
      exact reached

/-- A request that fits into one fragment is handed over as one frame. -/
theorem achieves_sendFragment (conforming : Conforming device file At)
    (base offset size : Nat) {hw : Hw σ}
    (idle : At (.collecting []) hw.device) :
    Exec.Achieves
      (fun _ => sendFragment device base (requestMessage offset size) requestSize
        biosFixedHostAddr biosSecAddr 3 0 0) hw
      fun _ after => At (.pending (requestFrame offset size)) after.device := by
  refine (conforming.achieves_read idle _ _ _ (by simp [hCsr, secCbRw])).bind ?_
  rintro hcr hw ⟨_, idle⟩
  refine (conforming.achieves_write idle rfl _ _ _ _
    (controlWrite_hCsr base (by simp))).bind ?_
  intro _ hw idle
  refine (conforming.achieves_absorb base _ idle).bind ?_
  intro _ hw headed
  refine (conforming.achieves_sendWords base (requestMessage offset size) 0 3 0
    headed).bind ?_
  intro _ hw collected
  refine (conforming.achieves_read collected _ _ _
    (by simp [hCsr, secCbRw])).bind ?_
  rintro status hw ⟨_, collected⟩
  exact conforming.achieves_ring base collected (List.cons_ne_nil _ _)
    (HostCtrlReg.hIg_setHIg _ 1)

/-- Sending a request succeeds and leaves its frame with the device. -/
theorem achieves_heciSendImpl (conforming : Conforming device file At)
    (base offset size : Nat) {hw : Hw σ}
    (idle : At (.collecting []) hw.device) :
    Exec.Achieves
      (fun bound => heciSendImpl device bound base
        (some (requestMessage offset size)) requestSize biosFixedHostAddr
        biosSecAddr) hw
      fun status after => status = 0 ∧
        At (.pending (requestFrame offset size)) after.device := by
  have depth := conforming.depth _ base idle
  simp only [heciSendImpl]
  apply Exec.achieves_if_neg (by decide)
  refine (conforming.achieves_read idle _ _ _ (by simp [hCsr, secCbRw])).bind ?_
  rintro hcr hw ⟨rfl, idle⟩
  refine (conforming.achieves_write idle rfl _ _ _ _
    (controlWrite_hCsr base (by simp))).bind ?_
  intro _ hw idle
  apply Exec.achieves_of_succ
  apply Exec.achieves_if_neg (by decide)
  refine (((conforming.ready _ base idle) hw.log).shift Nat.le_succ).bind ?_
  rintro ready hw ⟨positive, idle⟩
  apply Exec.achieves_if_neg (Int.not_lt.mpr (Int.le_of_lt positive))
  have leftSize : (requestSize + 3) % 2 ^ 32 / 4 = 3 := by decide
  rw [leftSize, if_neg (by omega)]
  refine (conforming.achieves_sendFragment base offset size idle).bind ?_
  intro _ hw pending
  apply Exec.achieves_if_neg (Nat.lt_irrefl 0)
  apply Exec.achieves_of_succ
  apply Exec.achieves_if_pos rfl
  exact Exec.achieves_pure ⟨rfl, pending⟩

/-! ### Receiving -/

/-- A wait for data followed by a read takes the next word of the reply. -/
theorem achieves_take (conforming : Conforming device file At) (base : Nat)
    {word : BitVec 32} {rest : List (BitVec 32)} {hw : Hw σ}
    (reached : At (.delivering (word :: rest)) hw.device) :
    Exec.Achieves (fun _ => heciRegRead device base secCbRw) hw
      fun value after => value = word ∧ At (.delivering rest) after.device :=
  Exec.achieves_of_eq (readReg_apply device _ _ _ hw)
    (conforming.take _ base word rest reached)

/-- The data words of a frame that fits the buffer are stored one after the
other. -/
theorem achieves_receiveWords (conforming : Conforming device file At)
    (base bufSize : Nat) {words : List (BitVec 32)} (index : Nat)
    (message : Message) {hw : Hw σ}
    (reached : At (.delivering words) hw.device)
    (fits : (index + words.length) * 4 ≤ bufSize + 4) :
    Exec.Achieves
      (fun bound => receiveWords device bound base bufSize words.length index
        (some message)) hw
      fun received after =>
        received = (true, index + words.length,
          some (Message.storeAll index words message)) ∧
        At (.delivering []) after.device := by
  induction words generalizing index message hw with
  | nil => exact Exec.achieves_pure ⟨rfl, reached⟩
  | cons word rest ih =>
      rw [List.length_cons] at fits
      refine ((conforming.dataReady _ base word rest reached) hw.log).bind ?_
      rintro ready hw ⟨positive, reached⟩
      apply Exec.achieves_if_neg (Int.not_lt.mpr (Int.le_of_lt positive))
      refine (conforming.achieves_take base reached).bind ?_
      rintro value hw ⟨rfl, taken⟩
      have stored : Exec.Achieves
          (fun _ => storeWithin bufSize (some message) index value) hw
          fun next after => next = some (message.store index value) ∧
            At (.delivering rest) after.device := by
        apply Exec.achieves_if_pos (Or.inr (by omega))
        exact Exec.achieves_of_eq rfl ⟨rfl, taken⟩
      refine stored.bind ?_
      rintro next hw ⟨rfl, taken⟩
      refine (ih (index + 1) (message.store index value) taken (by omega)).mono ?_
      rintro received after ⟨rfl, finished⟩
      refine ⟨?_, finished⟩
      rw [List.length_cons, Message.storeAll, Nat.add_right_comm, Nat.add_assoc]

/-- The device answers a pending request by one frame, which ends up in the
buffer. -/
theorem achieves_heciReceiveImpl (conforming : Conforming device file At)
    (base offset size : Nat) (message : Message) {hw : Hw σ}
    (inside : offset + size ≤ file.length)
    (pending : At (.pending (requestFrame offset size)) hw.device) :
    Exec.Achieves
      (fun bound => heciReceiveImpl device bound base (some message)
        (some dataBufferSize)) hw
      fun received after => received.status = 0 ∧
        At (.collecting []) after.device ∧
        ∃ reply, received.message = some reply ∧
          Answer file offset size reply := by
  apply Exec.achieves_of_succ
  refine (conforming.achieves_read pending _ _ _
    (by simp [hCsr, secCbRw])).bind ?_
  rintro hcr hw ⟨_, pending⟩
  refine (conforming.achieves_write pending trivial _ _ _ _
    (controlWrite_hCsr base (by simp))).bind ?_
  intro _ hw pending
  refine (((conforming.answer _ base offset size pending inside) hw.log).shift
    Nat.le_succ).bind ?_
  rintro ready hw ⟨positive, head, body, reply, delivering⟩
  apply Exec.achieves_if_neg (Int.not_lt.mpr (Int.le_of_lt positive))
  refine (conforming.achieves_take base delivering).bind ?_
  rintro value hw ⟨rfl, headTaken⟩
  have lengthBound := HeciMsgHdr.length_lt value
  have bodyFits : (0 + body.length) * 4 ≤ dataBufferSize + 4 := by
    have capacity : dataBufferSize = 508 := rfl
    rw [reply.words, HeciMsgHdr.dataWords]
    omega
  have received := (conforming.achieves_receiveWords base dataBufferSize 0
    message headTaken bodyFits).shift Nat.le_succ
  rw [reply.words] at received
  refine received.bind ?_
  rintro words hw ⟨rfl, finished⟩
  apply Exec.achieves_if_pos rfl
  refine (conforming.achieves_read finished _ _ _
    (by simp [hCsr, secCbRw])).bind ?_
  rintro status hw ⟨_, finished⟩
  refine (conforming.achieves_write finished trivial _ _ _ _
    (controlWrite_hCsr base (by simp))).bind ?_
  intro _ hw finished
  apply Exec.achieves_if_pos reply.complete
  refine Exec.achieves_pure ⟨rfl, conforming.done _ finished, _, rfl, ?_⟩
  apply reply.answer_of_words
  intro i within
  have stored := Message.word_storeAll 0 within message
  rw [Nat.zero_add] at stored
  rw [stored, word_bodyMessage within]

/-- An exchange on a conforming device completes with an answer. -/
theorem achieves_heciSendwAck (conforming : Conforming device file At)
    (offset size : Nat) {hw : Hw σ} (inside : offset + size ≤ file.length)
    (idle : At (.collecting []) hw.device) :
    Exec.Achieves
      (fun bound => heciSendwAck device bound (requestMessage offset size)
        requestSize dataBufferSize biosFixedHostAddr biosSecAddr) hw
      fun answer after => answer.1 = 0 ∧ At (.collecting []) after.device ∧
        Answer file offset size answer.2 := by
  refine (conforming.achieves_heciGetBaseAddr idle).bind ?_
  rintro base hw ⟨nonzero, idle⟩
  apply Exec.achieves_if_neg nonzero
  refine (conforming.achieves_heciSendImpl base offset size idle).bind ?_
  rintro status hw ⟨rfl, pending⟩
  apply Exec.achieves_if_neg (not_not.mpr rfl)
  refine (conforming.achieves_heciReceiveImpl base offset size _ inside
    pending).bind ?_
  rintro received hw ⟨succeeded, idle, reply, buffer, answers⟩
  refine Exec.achieves_pure ⟨succeeded, idle, ?_⟩
  rw [buffer]
  exact answers

/-! ### The download -/

theorem achieves_attkbExchange (conforming : Conforming device file At)
    (offset size : Nat) {download : Download σ}
    (inside : offset + size ≤ file.length)
    (idle : At (.collecting []) download.hw.device) :
    Exec.Achieves (fun bound => attkbExchange device bound offset size) download
      fun answer after => answer.1 = 0 ∧ At (.collecting []) after.hw.device ∧
        Answer file offset size answer.2 ∧ after.block = download.block := by
  refine ((conforming.achieves_heciSendwAck offset size inside idle).zoom
    fun hw download => { download with hw := hw }).bind ?_
  rintro answer _ ⟨hw, ⟨succeeded, idle, answers⟩, rfl⟩
  exact Exec.achieves_of_eq rfl ⟨succeeded, idle, answers, rfl⟩

theorem achieves_getAttkbSize (conforming : Conforming device file At)
    {download : Download σ} (idle : At (.collecting []) download.hw.device) :
    Exec.Achieves (fun bound => getAttkbSize device bound) download
      fun size after => size = file.length ∧ At (.collecting []) after.hw.device := by
  refine (conforming.achieves_attkbExchange 0 0 (Nat.zero_le _) idle).bind ?_
  rintro answer after ⟨succeeded, idle, answers, _⟩
  apply Exec.achieves_if_neg
  · rw [succeeded, answers.result]
    decide
  · exact Exec.achieves_pure ⟨answers.total rfl, idle⟩

/-- The accepted part of the file is at the front of the block. -/
def Holds (file : List (BitVec 8)) (offset : Nat) (block : Memory Cell) : Prop :=
  ∀ i, i < offset → (block i).value = file.getD i 0

/-- Storing a chunk of the file behind the part already there. -/
theorem Holds.storeChunk {offset size : Nat} {reply : Message}
    {download : Download σ} (holds : Holds file offset download.block)
    (nonzero : size ≠ 0) (answers : Answer file offset size reply) :
    Holds file (offset + reply.readSize)
      (Download.storeChunk offset reply download).block := by
  intro i inside
  rw [Download.block_storeChunk]
  by_cases before : i < offset
  · rw [Memory.copy_apply_of_lt before]
    exact holds i before
  · rw [Memory.copy_apply_of_mem (by omega) inside]
    have byte := answers.data nonzero (i - offset) (by omega)
    rw [Nat.add_sub_cancel' (by omega)] at byte
    exact byte

/-- The chunk loop assembles the rest of the file, however short the reads are.
By induction on the number of bytes still missing. -/
theorem achieves_chunkLoop (conforming : Conforming device file At)
    (small : file.length < 2 ^ 16) {offset remaining : Nat}
    (balance : offset + remaining = file.length) (extra : Nat)
    {download : Download σ} (idle : At (.collecting []) download.hw.device)
    (holds : Holds file offset download.block) :
    Exec.Achieves
      (fun rounds => chunkLoop device (rounds + extra) file.length rounds offset
        remaining) download
      fun size after => size = file.length ∧
        Holds file file.length after.block := by
  induction remaining using Nat.strongRecOn
    generalizing offset extra download with
  | ind remaining ih =>
    apply Exec.achieves_of_succ
    by_cases finished : remaining = 0
    · apply Exec.achieves_if_pos finished
      rw [finished, Nat.add_zero] at balance
      rw [balance] at holds
      exact Exec.achieves_pure ⟨rfl, holds⟩
    · apply Exec.achieves_if_neg finished
      rw [reqSize_exact]
      have aligned : alignedMaxTransferBuffer = 496 := by decide
      have nonzero : min remaining alignedMaxTransferBuffer ≠ 0 := by omega
      have exchanged := (conforming.achieves_attkbExchange offset
        (min remaining alignedMaxTransferBuffer) (by omega) idle).shift
        fun rounds => Nat.le_add_right rounds (1 + extra)
      simp only [← Nat.add_assoc] at exchanged
      refine exchanged.bind ?_
      rintro answer after ⟨succeeded, idle, answers, block⟩
      have positive := answers.positive nonzero
      have within := answers.within nonzero
      apply Exec.achieves_if_neg
      · rw [succeeded, answers.result]
        decide
      apply Exec.achieves_if_neg (by omega)
      rw [← block] at holds
      have stores : Exec.Achieves
          (fun _ => (Exec.modify (Download.storeChunk offset answer.2) :
            Exec Stop (Download σ) Unit)) after
          fun _ next => At (.collecting []) next.hw.device ∧
            Holds file (offset + answer.2.readSize) next.block :=
        Exec.achieves_modify ⟨idle, holds.storeChunk nonzero answers⟩
      refine stores.bind ?_
      rintro _ next ⟨idle, holds⟩
      have fits : answer.2.readSize ≤ remaining :=
        Nat.le_trans within (Nat.min_le_left _ _)
      rw [← balance] at small
      obtain ⟨offsetFits, remainingFits⟩ := counters_exact small fits
      rw [offsetFits, remainingFits]
      have balance' : offset + answer.2.readSize +
          (remaining - answer.2.readSize) = file.length := by omega
      have rest := ih (remaining - answer.2.readSize) (by omega) balance'
        (1 + extra) idle holds
      simp only [← Nat.add_assoc] at rest
      exact rest

/-- A file of fewer than 2 to the 16 bytes is retrieved whole. -/
theorem achieves_getAttkb (conforming : Conforming device file At)
    (nonempty : file.length ≠ 0) (small : file.length < 2 ^ 16)
    {download : Download σ} (idle : At (.collecting []) download.hw.device) :
    Exec.Achieves (fun bound => getAttkb device bound false) download
      fun size after => size = file.length ∧
        Holds file file.length after.block := by
  apply Exec.achieves_if_neg Bool.false_ne_true
  refine (conforming.achieves_getAttkbSize idle).bind ?_
  rintro size after ⟨rfl, idle⟩
  apply Exec.achieves_if_neg nonempty
  exact conforming.achieves_chunkLoop small (Nat.zero_add _) 0 idle
    fun i inside => absurd inside (Nat.not_lt_zero i)

end Conforming

end Exchange

end SandPlatform.Heci
