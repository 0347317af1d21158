import SandPlatform.DeviceInfo.Syscall
import SandPlatform.Heci.Refusal
import SandPlatform.Heci.Retrieval

/-!
# The keybox block

`copy_attkb_to_user` allocates a block of `MAX_ATTKB_SIZE` bytes, and the CSE
decides how much of it `get_attkb` fills.  The runs of `copy_attkb_to_user` are
described once by the download they contain; the bounds of the block then come
down to the sizes in the accepted replies.
-/

namespace SandPlatform.DeviceInfo

open SandPlatform.Foundation
open SandPlatform.Hardware
open SandPlatform.Heci
open SandPlatform.Kernel

universe u

variable {σ : Type u} (device : Device σ) (env : Env) (bound : Nat)

/-! ## Runs -/

/-- The state in which a downloaded keybox has been copied out and wiped. -/
def Kernel.delivered (userAttkb size : Nat) (kernel : Kernel σ) : Kernel σ :=
  (kernel.copyOut userAttkb (kernel.download.block.read 0 size)
    (env.copyOut userAttkb size).copied).wipeAttkb size

/-- The ways a call of `copy_attkb_to_user` can go: no block, a download that
has not returned, one that returned zero, and a keybox that was copied out, with
or without a fault. -/
inductive AttkbRun (userAttkb : Nat) (kernel : Kernel σ) :
    Except Stop Nat × Kernel σ → Prop
  | null : AttkbRun userAttkb kernel (.ok 0, kernel)
  | stopped {contents : Memory (BitVec 8)} {reason : Stop}
      {download : Download σ}
      (follows : Follows (staleBlock contents) (.error reason, download)) :
      AttkbRun userAttkb kernel (.error reason, kernel.setDownload download)
  | failed {contents : Memory (BitVec 8)} {download : Download σ}
      (follows : Follows (staleBlock contents) (.ok 0, download)) :
      AttkbRun userAttkb kernel (.ok 0, (kernel.setDownload download).freeAttkb)
  | faulted {contents : Memory (BitVec 8)} {size : Nat} {download : Download σ}
      (nonzero : size ≠ 0)
      (follows : Follows (staleBlock contents) (.ok size, download)) :
      AttkbRun userAttkb kernel
        (.error .panic,
          (kernel.setDownload download).delivered env userAttkb size)
  | delivered {contents : Memory (BitVec 8)} {size : Nat}
      {download : Download σ} (nonzero : size ≠ 0)
      (follows : Follows (staleBlock contents) (.ok size, download)) :
      AttkbRun userAttkb kernel
        (.ok size,
          ((kernel.setDownload download).delivered env userAttkb size).freeAttkb)

theorem deliverAttkb_apply (userAttkb size : Nat) (kernel : Kernel σ) :
    deliverAttkb env userAttkb size kernel =
      if (env.copyOut userAttkb size).status ≠ 0 then
        (.error .panic, kernel.delivered env userAttkb size)
      else
        (.ok size, (kernel.delivered env userAttkb size).freeAttkb) := by
  have copies : copyToUser env userAttkb kernel.download.block size kernel =
      (.ok (env.copyOut userAttkb size).status,
        kernel.copyOut userAttkb (kernel.download.block.read 0 size)
          (env.copyOut userAttkb size).copied) := rfl
  rw [deliverAttkb, Exec.gets_bind_apply, Exec.bind_of_ok copies,
    Exec.modify_bind_apply]
  split
  · rfl
  · rfl

/-- Every call goes one of these ways, and its download follows the replies. -/
theorem copyAttkbToUser_run (userAttkb : Nat) (kernel : Kernel σ) :
    AttkbRun env userAttkb kernel
      (copyAttkbToUser device env bound userAttkb kernel) := by
  rw [copyAttkbToUser]
  cases env.attkbBlock with
  | none => exact .null
  | some contents =>
      have follows := getAttkb_follows device bound kernel.download.hw
        (staleBlock contents)
      change AttkbRun env userAttkb kernel ((Exec.modify _ >>= _ :
        Exec Stop (Kernel σ) Nat) kernel)
      rw [Exec.modify_bind_apply]
      rcases outcome : getAttkb device bound false
          (Download.start kernel.download.hw (staleBlock contents)) with
        ⟨reason | size, download⟩
      · rw [outcome] at follows
        have stopped : Exec.zoom Kernel.download Kernel.setDownload
            (getAttkb device bound false) (kernel.beginDownload contents) =
            (.error reason, kernel.setDownload download) :=
          congrArg (fun run => (run.1, kernel.setDownload run.2)) outcome
        rw [Exec.bind_of_error stopped]
        exact .stopped follows
      · rw [outcome] at follows
        have returned : Exec.zoom Kernel.download Kernel.setDownload
            (getAttkb device bound false) (kernel.beginDownload contents) =
            (.ok size, kernel.setDownload download) :=
          congrArg (fun run => (run.1, kernel.setDownload run.2)) outcome
        rw [Exec.bind_of_ok returned]
        by_cases zero : size = 0
        · subst zero
          exact .failed follows
        · rw [if_neg zero, deliverAttkb_apply]
          split
          · exact .faulted zero follows
          · exact .delivered zero follows

/-! ## Bounds -/

/-- Every byte stored through the `attkb` pointer lies in the allocated block,
and so does everything copied out of it. -/
def WithinBlock (kernel : Kernel σ) : Prop :=
  (∀ range ∈ kernel.download.writes, ∀ i, range.1 ≤ i →
    i < range.1 + range.2 → i < maxAttkbSize) ∧
  ∀ copy ∈ kernel.copies, copy.cells.length ≤ maxAttkbSize

/-- A download stays in the block exactly when the accepted replies carry no
more than its size. -/
theorem writes_within_iff {block : Memory Cell}
    {run : Except Stop Nat × Download σ} (follows : Follows block run) :
    (∀ range ∈ run.2.writes, ∀ i, range.1 ≤ i → i < range.1 + range.2 →
      i < maxAttkbSize) ↔ acceptedSize run.2.exchanges ≤ maxAttkbSize := by
  rw [follows.tracks.tiles.forall_le_iff, length_progressOf_file follows.recorded]

/-- The size a download returns is the number of bytes accepted. -/
theorem acceptedSize_of_returned {block : Memory Cell} {size : Nat}
    {download : Download σ} (follows : Follows block (.ok size, download))
    (nonzero : size ≠ 0) : acceptedSize download.exchanges = size := by
  rw [← length_progressOf_file follows.recorded]
  rcases follows.reports with ⟨zero, _⟩ | ⟨_, _, length⟩
  · exact absurd zero nonzero
  · exact length

/-- Copying a whole keybox out stays in the block exactly when downloading it
did. -/
theorem within_delivered_iff {block : Memory Cell} {size : Nat}
    {download : Download σ} (follows : Follows block (.ok size, download))
    (nonzero : size ≠ 0) (userAttkb : Nat) (cells : List Cell)
    (length : cells.length = size) :
    ((∀ range ∈ download.writes, ∀ i, range.1 ≤ i → i < range.1 + range.2 →
        i < maxAttkbSize) ∧
      ∀ copy ∈ [UserCopy.mk userAttkb cells],
        copy.cells.length ≤ maxAttkbSize) ↔
      acceptedSize download.exchanges ≤ maxAttkbSize := by
  rw [writes_within_iff follows, acceptedSize_of_returned follows nonzero,
    List.forall_mem_singleton, length, and_self_iff]

/-- A keybox that was delivered was stored whole. -/
theorem acceptedSize_of_delivered {userAttkb size : Nat} {kernel final : Kernel σ}
    (ran : AttkbRun env userAttkb kernel (.ok size, final)) (nonzero : size ≠ 0) :
    (∀ range ∈ final.download.writes, ∀ i, range.1 ≤ i →
      i < range.1 + range.2 → i < maxAttkbSize) → size ≤ maxAttkbSize := by
  intro within
  cases ran with
  | null => exact absurd rfl nonzero
  | failed follows => exact absurd rfl nonzero
  | delivered _ follows =>
      rw [← acceptedSize_of_returned follows nonzero]
      exact (writes_within_iff follows).mp within

/-- On a conforming device the whole keybox is delivered. -/
theorem achieves_copyAttkbToUser {device : Device σ} {file : List (BitVec 8)}
    {At : Stage → σ → Prop} (conforming : Conforming device file At)
    (nonempty : file.length ≠ 0) (small : file.length < 2 ^ 16)
    {contents : Memory (BitVec 8)} (allocated : env.attkbBlock = some contents)
    (copied : ∀ address size, (env.copyOut address size).status = 0)
    (userAttkb : Nat) {kernel : Kernel σ}
    (idle : At (.collecting []) kernel.download.hw.device) :
    Exec.Achieves (fun bound => copyAttkbToUser device env bound userAttkb) kernel
      fun size _ => size = file.length := by
  simp only [copyAttkbToUser, allocated]
  have begins : Exec.Achieves
      (fun _ => (Exec.modify (Kernel.beginDownload contents) :
        Exec Stop (Kernel σ) Unit)) kernel
      fun _ next => next = kernel.beginDownload contents :=
    Exec.achieves_modify rfl
  refine begins.bind ?_
  rintro _ next rfl
  have fresh : At (.collecting [])
      (kernel.beginDownload contents).download.hw.device := idle
  refine ((conforming.achieves_getAttkb nonempty small fresh).zoom
    Kernel.setDownload).bind ?_
  rintro size _ ⟨download, ⟨rfl, _⟩, rfl⟩
  apply Exec.achieves_if_neg nonempty
  refine Exec.achieves_of_eq (deliverAttkb_apply env userAttkb _ _ |>.trans
    (if_neg (not_not.mpr (copied _ _)))) rfl

/-- The stores and the copy-out stay within the block exactly when the accepted
replies carry at most its size. -/
theorem copyAttkbToUser_within_iff (hw : Hw σ) (user : Memory (BitVec 8))
    (userAttkb : Nat) :
    WithinBlock (copyAttkbToUser device env bound userAttkb
        (Kernel.start hw user)).2 ↔
      acceptedSize (copyAttkbToUser device env bound userAttkb
        (Kernel.start hw user)).2.download.exchanges ≤ maxAttkbSize := by
  have noCopy : ∀ copy ∈ ([] : List UserCopy),
      copy.cells.length ≤ maxAttkbSize := by
    intro copy member
    cases member
  have ran := copyAttkbToUser_run device env bound userAttkb (Kernel.start hw user)
  generalize copyAttkbToUser device env bound userAttkb (Kernel.start hw user) = run
    at ran ⊢
  cases ran with
  | null =>
      refine iff_of_true ⟨?_, noCopy⟩ (Nat.zero_le _)
      intro range member
      cases member
  | stopped follows =>
      exact (and_iff_left noCopy).trans (writes_within_iff follows)
  | failed follows =>
      exact (and_iff_left noCopy).trans (writes_within_iff follows)
  | faulted nonzero follows =>
      exact within_delivered_iff follows nonzero userAttkb _
        (Memory.length_read _ _ _)
  | delivered nonzero follows =>
      exact within_delivered_iff follows nonzero userAttkb _
        (Memory.length_read _ _ _)

/-- Every allocation succeeds, nothing faults and the blocks are clear. -/
def calmEnv (uuid : Uuid) : Env where
  uuid := uuid
  attkbHeci := true
  devInfoBlock := some fun _ => 0
  attkbBlock := some fun _ => 0
  copyOut _ size := ⟨size, 0⟩

/-- A CSE that reports a keybox one byte larger than the block and serves it. -/
def oversizeDevice : Device Mailbox :=
  mailboxDevice (byteReply (List.replicate 16385 0)) fun _ => true

theorem copyAttkbToUser_overruns :
    ∃ bound, ¬ WithinBlock (copyAttkbToUser oversizeDevice
      (calmEnv keymasterSrvAppUuid) bound 0
      (Kernel.start ⟨Mailbox.empty, []⟩ fun _ => 0)).2 := by
  have length : (List.replicate 16385 (0 : BitVec 8)).length = 16385 :=
    List.length_replicate
  have conforming : Conforming oversizeDevice (List.replicate 16385 0)
      (Mailbox.At (byteReply (List.replicate 16385 0))) :=
    mailboxDevice_conforming
      (byteReply_serves (List.replicate 16385 0) (by rw [length]; decide))
      fun _ => rfl
  have idle : Mailbox.At (byteReply (List.replicate 16385 0)) (.collecting [])
      (Kernel.start ⟨Mailbox.empty, []⟩ fun _ => 0).download.hw.device :=
    ⟨rfl, rfl⟩
  rcases achieves_copyAttkbToUser (calmEnv keymasterSrvAppUuid) conforming
      (by rw [length]; decide) (by rw [length]; decide) rfl (fun _ _ => rfl) 0
      idle with
    ⟨size, final, whole, bound, returns⟩
  rw [length] at whole
  subst whole
  refine ⟨bound, ?_⟩
  intro within
  have ran := copyAttkbToUser_run oversizeDevice (calmEnv keymasterSrvAppUuid)
    bound 0 (Kernel.start ⟨Mailbox.empty, []⟩ fun _ => 0)
  have returned : copyAttkbToUser oversizeDevice (calmEnv keymasterSrvAppUuid)
      bound 0 (Kernel.start ⟨Mailbox.empty, []⟩ fun _ => 0) =
      (.ok 16385, final) := returns bound (Nat.le_refl _)
  rw [returned] at ran within
  have fits := acceptedSize_of_delivered _ ran (by decide) within.1
  exact absurd fits (by decide)

end SandPlatform.DeviceInfo
