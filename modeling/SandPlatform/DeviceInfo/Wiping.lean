import Mathlib.Data.List.Induction
import SandPlatform.DeviceInfo.Runs

/-!
# Wiping before free

The structure of the system call is always wiped before it is given back.  The
keybox block is wiped only when the download succeeded: a download that gives up
leaves the chunks stored so far in the freed block.
-/

namespace SandPlatform.DeviceInfo

open SandPlatform.Foundation
open SandPlatform.Hardware
open SandPlatform.Heci
open SandPlatform.Kernel

universe u

/-! ## What the replies leave behind -/

/-- The download gave up on a refused reply after it had stored, within the
block, a byte the CSE delivered. -/
def KeyboxLeft (exchanges : List Exchange) : Prop :=
  Refused exchanges ∧ ∃ i, i < maxAttkbSize ∧
    ∃ cell, (progressOf exchanges).file[i]? = some cell ∧ cell.origin = .cse

/-- The accepted part of the file consists of bytes the CSE delivered and of
bytes of the kernel's own buffer. -/
theorem file_origin (exchanges : List Exchange) :
    ∀ cell ∈ (progressOf exchanges).file,
      cell.origin = .cse ∨ cell.origin = .kernel := by
  induction exchanges using List.reverseRecOn with
  | nil =>
      intro cell member
      cases member
  | append_singleton exchanges exchange ih =>
      have chunk : ∀ cell ∈ exchange.reply.cell.read responseSize
          exchange.reply.readSize,
          cell.origin = .cse ∨ cell.origin = .kernel := by
        intro cell member
        obtain ⟨i, _, rfl⟩ := Memory.mem_read.mp member
        rw [Message.cell]
        split
        · exact Or.inl rfl
        · exact Or.inr rfl
      rw [progressOf_snoc, Progress.next]
      split
      · split
        · exact ih
        · exact ih
      · split
        · exact ih
        · exact List.forall_mem_append.mpr ⟨ih, chunk⟩
      · exact ih

/-- A keybox block that was never wiped is harmless exactly when no byte the CSE
delivered is in it. -/
theorem wiped_unwiped_iff (exchanges : List Exchange)
    (contents : Memory (BitVec 8)) :
    (Freed.mk maxAttkbSize (Memory.ofList (progressOf exchanges).file
        (staleBlock contents))).Wiped ↔
      ¬ ∃ i, i < maxAttkbSize ∧
        ∃ cell, (progressOf exchanges).file[i]? = some cell ∧
          cell.origin = .cse := by
  constructor
  · rintro wiped ⟨i, inside, cell, found, delivered⟩
    obtain ⟨within, same⟩ := List.getElem?_eq_some_iff.mp found
    have harmless := wiped i inside
    change Cell.Harmless (Memory.ofList _ _ i) at harmless
    rw [Memory.ofList_apply_of_lt within, same] at harmless
    exact harmless.2 delivered
  · intro clean i inside
    change Cell.Harmless (Memory.ofList _ _ i)
    by_cases within : i < (progressOf exchanges).file.length
    · rw [Memory.ofList_apply_of_lt within]
      constructor
      · rcases file_origin exchanges _ (List.getElem_mem within) with cse | kernel
        · rw [cse]
          simp
        · rw [kernel]
          simp
      · intro delivered
        exact clean ⟨i, inside, _, List.getElem?_eq_getElem within, delivered⟩
    · rw [Memory.ofList_apply_of_ge (Nat.le_of_not_lt within)]
      exact staleBlock_harmless contents i

/-- A keybox block wiped over the whole keybox is harmless. -/
theorem wiped_of_delivered {exchanges : List Exchange} {size : Nat}
    (length : (progressOf exchanges).file.length = size)
    (contents : Memory (BitVec 8)) :
    (Freed.mk maxAttkbSize (secureMemzero (Memory.ofList
      (progressOf exchanges).file (staleBlock contents)) 0 size)).Wiped := by
  intro i inside
  change Cell.Harmless (Memory.fill _ 0 size Cell.zero i)
  by_cases within : i < size
  · rw [Memory.fill_apply_of_mem (Nat.zero_le i) (by omega)]
    exact Cell.zero_harmless
  · rw [Memory.fill_apply_of_not_mem (by omega),
      Memory.ofList_apply_of_ge (by omega)]
    exact staleBlock_harmless contents i

/-! ## The keybox path -/

section Runs

variable {σ : Type u}

/-- Every block given back so far was wiped. -/
def AllWiped (kernel : Kernel σ) : Prop :=
  ∀ block ∈ kernel.freed, block.Wiped

theorem allWiped_free_iff (size : Nat) (cells : Memory Cell)
    {kernel : Kernel σ} (wiped : AllWiped kernel) :
    AllWiped (kernel.free size cells) ↔ (Freed.mk size cells).Wiped :=
  forall_mem_snoc.trans (and_iff_right wiped)

/-- A download that has not given up leaves nothing behind. -/
theorem not_keyboxLeft {block : Memory Cell}
    {run : Except Stop Nat × Download σ} (follows : Follows block run)
    (continued : (progressOf run.2.exchanges).phase ≠ .refused) :
    ¬ KeyboxLeft run.2.exchanges := by
  rintro ⟨refused, _⟩
  exact continued ((progressOf_refused_iff follows.recorded).mpr refused)

theorem reading_of_returned {block : Memory Cell} {size : Nat}
    {download : Download σ} (follows : Follows block (.ok size, download))
    (nonzero : size ≠ 0) :
    (progressOf download.exchanges).phase = .reading size ∧
      (progressOf download.exchanges).file.length = size := by
  rcases follows.reports with ⟨zero, _⟩ | ⟨_, reading, length⟩
  · exact absurd zero nonzero
  · exact ⟨reading, length⟩

theorem not_keyboxLeft_nil : ¬ KeyboxLeft [] := by
  rintro ⟨refused, _⟩
  exact refused

/-- A run of `copy_attkb_to_user` gives back a wiped block exactly when its
download leaves nothing behind. -/
theorem AttkbRun.allWiped_iff {env : Env} {userAttkb : Nat} {kernel : Kernel σ}
    {run : Except Stop Nat × Kernel σ} (ran : AttkbRun env userAttkb kernel run)
    (wiped : AllWiped kernel) (fresh : kernel.download.exchanges = []) :
    AllWiped run.2 ↔ ¬ KeyboxLeft run.2.download.exchanges := by
  cases ran with
  | null =>
      refine iff_of_true wiped ?_
      rw [fresh]
      exact not_keyboxLeft_nil
  | stopped follows =>
      exact iff_of_true wiped (not_keyboxLeft follows follows.reports)
  | @failed contents download follows =>
      have refused : Refused download.exchanges := by
        rw [← progressOf_refused_iff follows.recorded]
        rcases follows.reports with ⟨_, refused⟩ | ⟨nonzero, _⟩
        · exact refused
        · exact absurd rfl nonzero
      rw [Kernel.freeAttkb]
      refine (allWiped_free_iff _ _ wiped).trans ?_
      have block : download.block = _ := follows.tracks.block_eq
      change (Freed.mk maxAttkbSize download.block).Wiped ↔
        ¬ KeyboxLeft download.exchanges
      rw [block, wiped_unwiped_iff, KeyboxLeft, and_iff_right refused]
  | faulted nonzero follows =>
      refine iff_of_true wiped (not_keyboxLeft follows ?_)
      rw [(reading_of_returned follows nonzero).1]
      simp
  | @delivered contents size download nonzero follows =>
      have finished := reading_of_returned follows nonzero
      refine iff_of_true ?_ (not_keyboxLeft follows ?_)
      · refine (allWiped_free_iff _ _ wiped).mpr ?_
        have block : download.block = _ := follows.tracks.block_eq
        change (Freed.mk maxAttkbSize
          (secureMemzero download.block 0 size)).Wiped
        rw [block]
        exact wiped_of_delivered finished.2 contents
      · rw [finished.1]
        simp

/-- Retrieving the keybox frees at most its block. -/
theorem RetrieveRun.allWiped_iff {env : Env} {info : Nat} {kernel : Kernel σ}
    {run : Except Stop Nat × Kernel σ} (ran : RetrieveRun env info kernel run)
    (wiped : AllWiped kernel) (fresh : kernel.download.exchanges = []) :
    AllWiped run.2 ↔ ¬ KeyboxLeft run.2.download.exchanges := by
  cases ran with
  | absent hw =>
      refine iff_of_true wiped ?_
      change ¬ KeyboxLeft kernel.download.exchanges
      rw [fresh]
      exact not_keyboxLeft_nil
  | called ran => exact ran.allWiped_iff wiped fresh

theorem ProvideRun.allWiped_iff {env : Env} {permission : Permission}
    {info : Nat} {devInfo : Memory Cell} {kernel : Kernel σ}
    {run : Except Stop (Memory Cell) × Kernel σ}
    (ran : ProvideRun env permission info devInfo kernel run)
    (wiped : AllWiped kernel) (fresh : kernel.download.exchanges = []) :
    AllWiped run.2 ↔ ¬ KeyboxLeft run.2.download.exchanges := by
  cases ran with
  | withheld denied =>
      refine iff_of_true wiped ?_
      rw [fresh]
      exact not_keyboxLeft_nil
  | retrieved granted ran => exact ran.allWiped_iff wiped fresh
  | stopped granted ran => exact ran.allWiped_iff wiped fresh

/-- The structure is wiped in full. -/
theorem wiped_devInfo (devInfo : Memory Cell) (size : Nat) :
    (Freed.mk size (secureMemzero devInfo 0 size)).Wiped := by
  intro i inside
  change Cell.Harmless (Memory.fill devInfo 0 size Cell.zero i)
  have upper : i < 0 + size := by
    rw [Nat.zero_add]
    exact inside
  rw [Memory.fill_apply_of_mem (Nat.zero_le i) upper]
  exact Cell.zero_harmless

/-- A run of `sys_get_device_info` gives back wiped blocks only, exactly when its
download leaves nothing behind. -/
theorem SysRun.allWiped_iff {env : Env} {secInfo : Memory (BitVec 8)}
    {info : Nat} {kernel : Kernel σ} {run : Except Stop Code × Kernel σ}
    (ran : SysRun env secInfo info kernel run) (wiped : AllWiped kernel)
    (fresh : kernel.download.exchanges = []) :
    AllWiped run.2 ↔ ¬ KeyboxLeft run.2.download.exchanges := by
  have nothing : ¬ KeyboxLeft kernel.download.exchanges := by
    rw [fresh]
    exact not_keyboxLeft_nil
  cases ran with
  | mismatch differs => exact iff_of_true wiped nothing
  | notAllowed expected denied => exact iff_of_true wiped nothing
  | noMemory expected granted null => exact iff_of_true wiped nothing
  | stopped expected granted allocated provided =>
      exact provided.allWiped_iff wiped fresh
  | faulted expected granted allocated provided =>
      exact provided.allWiped_iff wiped fresh
  | @delivered contents devInfo final expected granted allocated provided =>
      have before := provided.allWiped_iff wiped fresh
      refine Iff.trans ?_ before
      constructor
      · intro all block member
        exact all block (List.mem_append_left _ member)
      · intro all
        exact (allWiped_free_iff _ _ all).mpr (wiped_devInfo devInfo _)

variable (device : Device σ) (env : Env) (bound : Nat)

/-- Both calls give back only wiped blocks exactly when the download they contain
does not give up on a refused reply after storing a byte the CSE delivered. -/
theorem freed_wiped_iff (hw : Hw σ) (user : Memory (BitVec 8))
    (secInfo : Memory (BitVec 8)) (info userAttkb : Nat) :
    (AllWiped (sysGetDeviceInfo device env bound secInfo info
        (Kernel.start hw user)).2 ↔
      ¬ KeyboxLeft (sysGetDeviceInfo device env bound secInfo info
        (Kernel.start hw user)).2.download.exchanges) ∧
    (AllWiped (copyAttkbToUser device env bound userAttkb
        (Kernel.start hw user)).2 ↔
      ¬ KeyboxLeft (copyAttkbToUser device env bound userAttkb
        (Kernel.start hw user)).2.download.exchanges) := by
  have wiped : AllWiped (Kernel.start hw user) := by
    intro block member
    cases member
  constructor
  · exact (sysGetDeviceInfo_run device env bound secInfo info _).allWiped_iff
      wiped rfl
  · exact (copyAttkbToUser_run device env bound userAttkb _).allWiped_iff wiped rfl

end Runs

/-- A CSE that reports two bytes, delivers the first one and answers the second
request with an error. -/
def interruptedDevice : Device Mailbox :=
  mailboxDevice (fun frame =>
    let range := frame.getD 2 0
    if Word.field range 16 16 = 0 then
      [replyHead responseSize, 0, 2, 0]
    else if Word.field range 0 16 = 0 then
      [replyHead (responseSize + 1), 0, 2, 1, 0xA5]
    else
      [replyHead responseSize, 0x01000000, 2, 0]) fun _ => true

theorem interruptedDevice_leaves :
    ∃ block ∈ (sysGetDeviceInfo interruptedDevice (calmEnv keymasterSrvAppUuid) 8
        blankSecInfo 0 (Kernel.start ⟨Mailbox.empty, []⟩ fun _ => 0)).2.freed,
      0 < block.size ∧ ¬ (block.cells 0).Harmless := by
  decide +kernel

/-- The keybox block is given back with the first byte still in it. -/
theorem sysGetDeviceInfo_frees_unwiped :
    ¬ AllWiped (sysGetDeviceInfo interruptedDevice (calmEnv keymasterSrvAppUuid) 8
      blankSecInfo 0 (Kernel.start ⟨Mailbox.empty, []⟩ fun _ => 0)).2 := by
  intro wiped
  rcases interruptedDevice_leaves with ⟨block, member, inside, harmful⟩
  exact harmful (wiped block member 0 inside)

end SandPlatform.DeviceInfo
