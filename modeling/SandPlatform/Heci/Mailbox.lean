import SandPlatform.Heci.Conforming

/-!
# A mailbox device

A small device that can be run: it collects the words of a frame, computes its
reply when the interrupt is raised, and hands the words of the reply out one by
one.  Whether the register window can be mapped is decided anew for each
exchange.
-/

namespace SandPlatform.Heci

open SandPlatform.Foundation
open SandPlatform.Hardware

/-- The words of an unfinished frame, the words of the reply still to be read,
and the number of mappings made. -/
structure Mailbox where
  written : List (BitVec 32)
  unread : List (BitVec 32)
  mapped : Nat

namespace Mailbox

/-- Nothing is written and nothing is answered. -/
def empty : Mailbox :=
  ⟨[], [], 0⟩

/-- The control status of the security engine: ready, with a distance between
the buffer pointers as long as there is something to read. -/
def status (mailbox : Mailbox) : BitVec 32 :=
  if mailbox.unread = [] then 0x00000008 else 0x00010008

/-- A read of the read window takes the next word of the answer; the other registers are as
they were. -/
def readHeci (offset : Nat) (mailbox : Mailbox) : BitVec 32 × Mailbox :=
  if offset = secCbRw then
    (mailbox.unread.headD 0, { mailbox with unread := mailbox.unread.tail })
  else if offset = hCsr then
    (0x08000000, mailbox)
  else
    (mailbox.status, mailbox)

/-- A write to the write window is collected, and the interrupt makes the device answer what
was. -/
def writeHeci (respond : List (BitVec 32) → List (BitVec 32)) (offset : Nat)
    (value : BitVec 32) (mailbox : Mailbox) : Mailbox :=
  if offset = hCbWw then
    { mailbox with written := mailbox.written ++ [value] }
  else if offset = hCsr ∧ HostCtrlReg.hIg value = 1 ∧ mailbox.written ≠ [] then
    { mailbox with written := [], unread := respond mailbox.written }
  else
    mailbox

end Mailbox

/-- The mailbox as a device: `respond` computes the reply to a frame and
`mappable` decides the outcome of the mapping with the given number. -/
def mailboxDevice (respond : List (BitVec 32) → List (BitVec 32))
    (mappable : Nat → Bool) : Device Mailbox where
  read window _ offset mailbox :=
    match window with
    | .heci _ => mailbox.readHeci offset
    | _ => (0, mailbox)
  write window _ offset value mailbox :=
    match window with
    | .heci _ => mailbox.writeHeci respond offset value
    | _ => mailbox
  mapPhysical _ mailbox :=
    (if mappable mailbox.mapped then some 1 else none,
      { mailbox with mapped := mailbox.mapped + 1 })

/-! ## Conformity -/

/-- The stage a mailbox is at. -/
def Mailbox.At (respond : List (BitVec 32) → List (BitVec 32)) (stage : Stage)
    (mailbox : Mailbox) : Prop :=
  match stage with
  | .collecting written => mailbox.written = written ∧ mailbox.unread = []
  | .pending frame => mailbox.written = [] ∧ mailbox.unread = respond frame
  | .delivering unread => mailbox.written = [] ∧ mailbox.unread = unread

/-- Every request within the file gets a reply. -/
def Serves (respond : List (BitVec 32) → List (BitVec 32))
    (file : List (BitVec 8)) : Prop :=
  ∀ offset size, offset + size ≤ file.length →
    ∃ head body, respond (requestFrame offset size) = head :: body ∧
      Reply file offset size head body

section Conformity

variable {respond : List (BitVec 32) → List (BitVec 32)} {mappable : Nat → Bool}

theorem Mailbox.At.unread_eq {stage : Stage} {mailbox other : Mailbox}
    (reached : Mailbox.At respond stage mailbox)
    (written : other.written = mailbox.written)
    (unread : other.unread = mailbox.unread) : Mailbox.At respond stage other := by
  cases stage <;> simpa only [Mailbox.At, written, unread] using reached

/-- A predicate that is positive at the first poll is waited for, whatever the
timer registers return. -/
theorem awaits_of_first_poll {predicate : Exec Stop (Hw Mailbox) Int}
    {mailbox : Mailbox} {post : Mailbox → Prop}
    (raised : ∀ log, Exec.Achieves (fun _ => predicate) ⟨mailbox, log⟩
      fun res hw => 0 < res ∧ post hw.device) :
    Awaits (mailboxDevice respond mappable) predicate mailbox post := by
  intro log
  apply Exec.achieves_of_succ
  have timer : Exec.Achieves
      (fun _ => initTimer (mailboxDevice respond mappable)) ⟨mailbox, log⟩
      fun _ hw => mailbox = hw.device := Exec.achieves_of_eq rfl rfl
  refine timer.bind ?_
  rintro _ ⟨_, timerLog⟩ rfl
  have clock : Exec.Achieves
      (fun _ => clockCycles (mailboxDevice respond mappable)) ⟨mailbox, timerLog⟩
      fun _ hw => mailbox = hw.device := Exec.achieves_of_eq rfl rfl
  refine clock.bind ?_
  rintro _ ⟨_, clockLog⟩ rfl
  refine (raised clockLog).bind ?_
  rintro res hw ⟨positive, holds⟩
  exact Exec.achieves_if_pos positive (Exec.achieves_pure ⟨positive, holds⟩)

/-- The mailbox is always ready. -/
theorem awaits_ready (mailbox : Mailbox) (base : Nat) :
    Awaits (mailboxDevice respond mappable)
      (isDevReady (mailboxDevice respond mappable) base) mailbox
      fun next => next = mailbox := by
  apply awaits_of_first_poll
  intro log
  refine Exec.achieves_of_eq rfl ⟨?_, rfl⟩
  change (0 : Int) < if DevCtrlReg.secRdyHra mailbox.status = 0 then 0 else 1
  rw [Mailbox.status]
  split <;> decide

/-- With words to read, the mailbox signals data. -/
theorem awaits_dataReady {mailbox : Mailbox} (unread : mailbox.unread ≠ [])
    (base : Nat) :
    Awaits (mailboxDevice respond mappable)
      (isDevDataReady (mailboxDevice respond mappable) base) mailbox
      fun next => next = mailbox := by
  apply awaits_of_first_poll
  intro log
  refine Exec.achieves_of_eq rfl ⟨?_, rfl⟩
  change (0 : Int) < if DevCtrlReg.secCbrpHra mailbox.status =
    DevCtrlReg.secCbwpHra mailbox.status then 0 else 1
  rw [Mailbox.status, if_neg unread]
  decide

theorem readHeci_of_ne {mailbox : Mailbox} {offset : Nat}
    (different : offset ≠ secCbRw) : (mailbox.readHeci offset).2 = mailbox := by
  rw [Mailbox.readHeci, if_neg different]
  split <;> rfl

theorem writeHeci_of_ne {mailbox : Mailbox} {offset : Nat} (value : BitVec 32)
    (different : offset ≠ hCbWw) (written : mailbox.written = []) :
    mailbox.writeHeci respond offset value = mailbox := by
  rw [Mailbox.writeHeci, if_neg different, if_neg (by simp [written])]

/-- Outside of a frame under way, no words are kept for one. -/
theorem Mailbox.At.written_eq_nil {stage : Stage} {mailbox : Mailbox}
    (reached : Mailbox.At respond stage mailbox) (quiet : stage.Quiet) :
    mailbox.written = [] := by
  cases stage with
  | collecting written => exact reached.1.trans quiet
  | pending frame => exact reached.1
  | delivering unread => exact reached.1

/-- A mailbox that serves a file and can always be mapped conforms. -/
theorem mailboxDevice_conforming {file : List (BitVec 8)}
    (serves : Serves respond file) (mapped : ∀ count, mappable count = true) :
    Conforming (mailboxDevice respond mappable) file (Mailbox.At respond) where
  read stage mailbox window width offset reached outside := by
    cases window with
    | heci base =>
        have different : offset ≠ secCbRw := by
          rintro rfl
          exact outside base rfl
        change Mailbox.At respond stage (mailbox.readHeci offset).2
        rw [readHeci_of_ne different]
        exact reached
    | port => exact reached
    | cse => exact reached
    | hpet => exact reached
    | spi => exact reached
  write stage mailbox window width offset value reached quiet control := by
    cases window with
    | heci base =>
        have different : offset ≠ hCbWw := by
          rw [control.1]
          decide
        change Mailbox.At respond stage (mailbox.writeHeci respond offset value)
        rw [writeHeci_of_ne value different (reached.written_eq_nil quiet)]
        exact reached
    | port => exact reached
    | cse => exact reached
    | hpet => exact reached
    | spi => exact reached
  map stage mailbox physical reached :=
    ⟨1, if_pos (mapped _), Nat.one_ne_zero, reached.unread_eq rfl rfl⟩
  depth _ _ _ := by
    change 4 ≤ (HostCtrlReg.hCbd 0x08000000).toNat
    decide
  ready mailbox base idle log :=
    ((awaits_ready mailbox base) log).mono fun _ _ ⟨positive, same⟩ =>
      ⟨positive, same ▸ idle⟩
  absorb mailbox base word written reached :=
    ⟨congrArg (· ++ [word]) reached.1, reached.2⟩
  ring mailbox base value frame reached nonempty interrupt := by
    change Mailbox.At respond (.pending frame)
      (mailbox.writeHeci respond hCsr value)
    have written : mailbox.written ≠ [] := by
      rw [reached.1]
      exact nonempty
    rw [Mailbox.writeHeci, if_neg (by decide), if_pos ⟨rfl, interrupt, written⟩]
    exact ⟨rfl, congrArg respond reached.1⟩
  answer mailbox base offset size reached inside log := by
    obtain ⟨head, body, replied, reply⟩ := serves offset size inside
    have unread : mailbox.unread = head :: body := reached.2.trans replied
    refine ((awaits_dataReady (by simp [unread]) base) log).mono ?_
    rintro res hw ⟨positive, same⟩
    refine ⟨positive, head, body, reply, ?_⟩
    rw [same]
    exact ⟨reached.1, unread⟩
  dataReady mailbox base word rest reached log := by
    refine ((awaits_dataReady (by simp [reached.2]) base) log).mono ?_
    rintro res hw ⟨positive, same⟩
    exact ⟨positive, same ▸ reached⟩
  take mailbox base word rest reached := by
    change (mailbox.unread.headD 0) = word ∧
      mailbox.written = [] ∧ mailbox.unread.tail = rest
    rw [reached.2]
    exact ⟨rfl, reached.1, rfl⟩
  done _ reached := reached

end Conformity

/-! ## A keybox served byte by byte -/

/-- The header of a complete reply of `size` bytes. -/
def replyHead (size : Nat) : BitVec 32 :=
  HeciMsgHdr.build biosFixedHostAddr biosSecAddr 1 size

theorem complete_replyHead (size : Nat) :
    HeciMsgHdr.messageComplete (replyHead size) = 1 :=
  HeciMsgHdr.messageComplete_build _ _ _ _

theorem length_replyHead {size : Nat} (fits : size < 2 ^ 9) :
    HeciMsgHdr.length (replyHead size) = size := by
  rw [replyHead, HeciMsgHdr.length_build, Nat.mod_eq_of_lt fits]

theorem dataWords_replyHead {size : Nat} (fits : size < 2 ^ 9) :
    HeciMsgHdr.dataWords (replyHead size) = (size + 3) / 4 := by
  rw [HeciMsgHdr.dataWords, length_replyHead fits]

/-- Answer a size query with the size and every other request with a single
byte. -/
def byteReply (file : List (BitVec 8)) (frame : List (BitVec 32)) :
    List (BitVec 32) :=
  let range := frame.getD 2 0
  let total := BitVec.ofNat 32 file.length
  if Word.field range 16 16 = 0 then
    [replyHead responseSize, 0, total, 0]
  else
    [replyHead (responseSize + 1), 0, total, 1,
      (file.getD (Word.field range 0 16).toNat 0).setWidth 32]

theorem offset_requestWords (offset size : Nat) :
    Word.field (requestWords offset size 1) 0 16 = BitVec.ofNat 16 offset := by
  rw [requestWords, Word.field_setField_of_disjoint _ _ (by omega) (by omega),
    Word.field_setField_same _ _ (by omega)]

theorem size_requestWords (offset size : Nat) :
    Word.field (requestWords offset size 1) 16 16 = BitVec.ofNat 16 size := by
  rw [requestWords, Word.field_setField_same _ _ (by omega)]

theorem field_low_setWidth {width : Nat} (value : BitVec width)
    (fits : width ≤ 32) : Word.field (value.setWidth 32) 0 width = value := by
  apply BitVec.eq_of_getLsbD_eq
  intro i inside
  rw [Word.getLsbD_field]
  simp [inside]
  omega

theorem totalFileSize_byteReply (file : List (BitVec 8))
    (small : file.length < 2 ^ 16) (third : List (BitVec 32)) :
    (bodyMessage (0 :: BitVec.ofNat 32 file.length :: third)).totalFileSize =
      file.length := by
  rw [Message.totalFileSize, word_bodyMessage (by simp)]
  have widened : BitVec.ofNat 32 file.length =
      (BitVec.ofNat 16 file.length).setWidth 32 := by
    apply BitVec.eq_of_toNat_eq
    simp
    omega
  change (Word.field (BitVec.ofNat 32 file.length) 0 16).toNat = file.length
  rw [widened, field_low_setWidth _ (by omega), BitVec.toNat_ofNat,
    Nat.mod_eq_of_lt small]

/-- The byte-wise replies serve any file whose size fits its field. -/
theorem byteReply_serves (file : List (BitVec 8)) (small : file.length < 2 ^ 16) :
    Serves (byteReply file) file := by
  intro offset size inside
  have range : (requestFrame offset size).getD 2 0 = requestWords offset size 1 :=
    rfl
  rw [byteReply, range, size_requestWords, offset_requestWords]
  have sizeFits : size % 2 ^ 16 = size := Nat.mod_eq_of_lt (by omega)
  by_cases query : size = 0
  · rw [if_pos (by rw [query]; rfl)]
    refine ⟨_, _, rfl, complete_replyHead _, ?_, ?_, ?_⟩
    · exact length_replyHead (by decide)
    · rw [dataWords_replyHead (by decide)]
      simp [responseSize]
    · constructor
      · exact Word.field_zero 24 8
      · intro _
        exact totalFileSize_byteReply file small _
      · exact absurd query
      · exact absurd query
      · exact absurd query
  · have nonzero : BitVec.ofNat 16 size ≠ 0 := by
      intro zero
      have value := congrArg BitVec.toNat zero
      rw [BitVec.toNat_ofNat, sizeFits] at value
      exact query value
    have offsetFits : (BitVec.ofNat 16 offset).toNat = offset := by
      rw [BitVec.toNat_ofNat]
      exact Nat.mod_eq_of_lt (by omega)
    rw [if_neg nonzero, offsetFits]
    have readSize : (bodyMessage [0, BitVec.ofNat 32 file.length, 1,
        (file.getD offset 0).setWidth 32]).readSize = 1 := by
      change (Word.field (1 : BitVec 32) 0 16).toNat = 1
      decide
    refine ⟨_, _, rfl, complete_replyHead _, ?_, ?_, ?_⟩
    · rw [readSize]
      exact length_replyHead (by decide)
    · rw [dataWords_replyHead (by decide)]
      simp [responseSize]
    · constructor
      · exact Word.field_zero 24 8
      · intro _
        exact totalFileSize_byteReply file small _
      · intro _
        exact Nat.le_of_eq readSize.symm
      · intro _
        rw [readSize]
        exact Nat.one_le_iff_ne_zero.mpr query
      · intro _ i first
        rw [readSize] at first
        rw [Nat.lt_one_iff.mp first]
        exact field_low_setWidth _ (by omega)

end SandPlatform.Heci
