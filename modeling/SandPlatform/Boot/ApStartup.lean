import SandPlatform.Boot.KernelImage
import SandPlatform.Foundation.LittleEndian
import SandPlatform.Hardware.Device

/-!
# Starting the other CPUs

The code for the other CPUs is copied to a page below 1 MiB and patched with its
own address: as a real-mode segment, in the GDT register and in the jump to the
32-bit code.  The startup IPI names only the page.
-/

namespace SandPlatform.Boot

open SandPlatform.Foundation
open SandPlatform.Hardware

universe u

/-! ## The code of `start16.S` -/

/-- The symbols of `start16.S`, and the bytes from `ap_entry_16` on. -/
structure Labels where
  apEntry16 : BitVec 64
  apEntry32 : BitVec 64
  apGdtr : BitVec 64
  apGdtTable : BitVec 64
  apGdtTableEnd : BitVec 64
  code : Memory (BitVec 8)

namespace Labels

variable (labels : Labels)

/-- `GDTR_OFFSET_IN_PAGE`, where the value of the GDT register is. -/
def gdtrOffsetInPage : BitVec 64 :=
  labels.apGdtr - labels.apEntry16

/-- `GDTR_LIMIT`, one less than the size of the GDT. -/
def gdtrLimit : BitVec 64 :=
  labels.apGdtTableEnd - labels.apGdtTable - 1

/-- `GDT_OFFSET_IN_PAGE`. -/
def gdtOffsetInPage : BitVec 64 :=
  labels.apGdtTable - labels.apEntry16

/-- `AP_ENTRY_32_OFFSET`, where the 32-bit code is in the page. -/
def apEntry32Offset : BitVec 64 :=
  labels.apEntry32 - labels.apEntry16

/-- The length of the code and its tables. -/
def size : BitVec 32 :=
  (labels.apGdtTableEnd - labels.apEntry16).setWidth 32

end Labels

/-- `REAL_MODE_STARTUP`, the operand that is the real-mode segment of the page. -/
def realModeStartup : Nat := 1

/-- `GDTR_OFFSET_IN_CODE`, the operand that says where the GDT register is. -/
def gdtrOffsetInCode : Nat := 7

/-- `AP_ENTRY_32_IN_CODE`, the target of the far jump. -/
def apEntry32InCode : Nat := 0x17

/-- `REAL_ADDRESS_IN_CODE`, the operand that says where the kernel was loaded. -/
def realAddressInCode : Nat := 0x1E

/-- The tables follow the instructions that are patched, the last of which ends at
0x22. -/
structure Trampoline extends Labels where
  behindCode : 0x22 ≤ toLabels.gdtrOffsetInPage.toNat
  gdtrInside : toLabels.gdtrOffsetInPage.toNat + 6 ≤ toLabels.size.toNat
  gdtInside : toLabels.gdtOffsetInPage.toNat < toLabels.size.toNat
  entryInside : toLabels.apEntry32Offset.toNat < toLabels.size.toNat

/-- Where the kernel runs. -/
structure RunAddress where
  realRunAddr : BitVec 64
  kernelLoadOffset : BitVec 64

/-- `startup_hotpatch`: the page is what is at `va`. -/
def startupHotpatch (labels : Labels) (kernel : RunAddress) (pa : BitVec 32)
    (page : Memory (BitVec 8)) : Memory (BitVec 8) :=
  let gdtr := labels.gdtrOffsetInPage.toNat
  let page := page.store realModeStartup 2 ((pa >>> 4).setWidth 16)
  let page := page.store gdtrOffsetInCode 2 (labels.gdtrOffsetInPage.setWidth 16)
  let page := page.store gdtr 2 (labels.gdtrLimit.setWidth 16)
  let page := page.store (gdtr + 2) 4
    ((pa.setWidth 64 + labels.gdtOffsetInPage).setWidth 32)
  let page := page.store apEntry32InCode 4
    ((pa.setWidth 64 + labels.apEntry32Offset).setWidth 32)
  let page := page.store (apEntry32InCode + 4) 2 (0x8 : BitVec 16)
  page.store realAddressInCode 4
    ((kernel.realRunAddr - kernel.kernelLoadOffset).setWidth 32)

/-! ## `x86_mp_init` -/

/-- The page tables and the other CPUs.  A range that is mapped has the bytes of its
first page where it should. -/
structure Surroundings (σ : Type u) where
  x86MmuMapRange : MapRange → σ → Int × σ
  x86MmuUnmap : BitVec 64 → σ → Int × σ
  cpuWakenUp : σ → Nat × σ
  smpMaxCpus : Nat
  vaddrToPaddr : σ → BitVec 64 → BitVec 64
  mapped : ∀ range world, (x86MmuMapRange range world).1 = 0 →
    range.startVaddr.toNat % 4096 = range.startPaddr.toNat % 4096 →
    ∀ i, range.startVaddr.toNat % 4096 + i < 4096 → i < range.size.toNat →
      vaddrToPaddr (x86MmuMapRange range world).2 (range.startVaddr + .ofNat 64 i) =
        range.startPaddr + .ofNat 64 i

/-- A startup IPI, and what the CPUs that receive it find. -/
structure Startup (σ : Type u) where
  vector : BitVec 32
  page : Memory (BitVec 8)
  world : σ

/-- The memory at the start of the mapping, and the IPIs sent. -/
structure ApState (σ : Type u) where
  page : Memory (BitVec 8)
  world : σ
  startups : List (Startup σ)

variable {σ : Type u} (around : Surroundings σ) (trampoline : Trampoline)
  (kernel : RunAddress)

/-- `ONE_MB_ADDR`, the end of what real mode addresses. -/
def oneMbAddr : BitVec 32 := 0x100000

/-- `is_ap_wkup_addrr_available`: a CPU can start there in real mode. -/
def isApWkupAddrrAvailable (addr : BitVec 32) : Bool :=
  addr < oneMbAddr

/-- The page that is mapped for the code. -/
def sipiRange (apStartupAddr : BitVec 32) : MapRange where
  startVaddr := 0xFFFFFFFF00000000 + apStartupAddr.setWidth 64
  startPaddr := apStartupAddr.setWidth 64
  size := 4096

/-- `x86_mmu_map_range`, which the surroundings answer. -/
def mapRange (range : MapRange) : Exec Stop (ApState σ) Int where
  run state :=
    let answer := around.x86MmuMapRange range state.world
    (.ok answer.1, { state with world := answer.2 })

/-- `x86_mmu_unmap` of the same range. -/
def unmapRange (range : MapRange) : Exec Stop (ApState σ) Int where
  run state :=
    let answer := around.x86MmuUnmap range.startVaddr state.world
    (.ok answer.1, { state with world := answer.2 })

/-- `broadcast_startup`; the CPUs find the page as it is when the IPI is sent. -/
def broadcastStartup (vector : BitVec 32) : Exec Stop (ApState σ) Unit :=
  Exec.modify fun state =>
    { state with startups := state.startups ++ [⟨vector, state.page, state.world⟩] }

/-- A read of `cpu_waken_up`, which the other CPUs count up. -/
def readCpuWakenUp : Exec Stop (ApState σ) Nat where
  run state :=
    let answer := around.cpuWakenUp state.world
    (.ok answer.1, { state with world := answer.2 })

/-- Wait until all CPUs have been started, for at most so many rounds. -/
def awaitCpus : Nat → Exec Stop (ApState σ) Unit
  | 0 => Exec.stop .running
  | rounds + 1 => do
      let waken ← readCpuWakenUp around
      if around.smpMaxCpus ≠ waken then
        awaitCpus rounds
      else
        pure ()

/-- `x86_mp_init`: the page is mapped, patched, started and unmapped; `rounds` bounds the
wait for the other CPUs. -/
def x86MpInit (rounds : Nat) (apStartupAddr : BitVec 32) :
    Exec Stop (ApState σ) Unit := do
  let range := sipiRange apStartupAddr
  if ¬isApWkupAddrrAvailable apStartupAddr then
    Exec.stop .panic
  else do
    let ret ← mapRange around range
    if ret ≠ 0 then
      pure ()
    else if range.size < trampoline.size.setWidth 64 then
      pure ()
    else do
      Exec.modify fun state =>
        { state with
          page := state.page.copy 0 trampoline.code 0 trampoline.size.toNat }
      Exec.modify fun state =>
        { state with
          page := startupHotpatch trampoline.toLabels kernel apStartupAddr state.page }
      broadcastStartup (apStartupAddr >>> 12)
      awaitCpus around rounds
      let _ ← unmapRange around range
      pure ()

/-! ## What is wanted -/

/-- Where a startup IPI starts a CPU. -/
def Startup.address (startup : Startup σ) : Nat :=
  startup.vector.toNat * 4096

/-- The CPUs start in the copy, with their data segment there.  The copy is in a page
below 1 MiB, and the addresses patched into it are those of the labels. -/
structure Startup.InCopy (startup : Startup σ) (range : MapRange) : Prop where
  copied : (around.vaddrToPaddr startup.world range.startVaddr).toNat = startup.address
  segment : startup.page.load realModeStartup 2 * 16 = startup.address
  onePage : ∀ i, i < trampoline.size.toNat →
    (around.vaddrToPaddr startup.world (range.startVaddr + .ofNat 64 i)).toNat =
        startup.address + i ∧
      (startup.address + i) / 4096 = startup.vector.toNat ∧
      startup.address + i < oneMbAddr.toNat
  gdtBase : startup.page.load (trampoline.gdtrOffsetInPage.toNat + 2) 4 =
    (around.vaddrToPaddr startup.world
      (range.startVaddr + trampoline.gdtOffsetInPage)).toNat
  entry32 : startup.page.load apEntry32InCode 4 =
    (around.vaddrToPaddr startup.world
      (range.startVaddr + trampoline.apEntry32Offset)).toNat

/-! ## The patched fields -/

section Patches

variable (pa : BitVec 32) (page : Memory (BitVec 8))

theorem load_segment :
    (startupHotpatch trampoline.toLabels kernel pa page).load realModeStartup 2 =
      ((pa >>> 4).setWidth 16).toNat := by
  have behind := trampoline.behindCode
  simp only [startupHotpatch, realModeStartup, gdtrOffsetInCode, apEntry32InCode,
    realAddressInCode]
  rw [Memory.load_store_of_disjoint _ (by omega), Memory.load_store_of_disjoint _ (by omega),
    Memory.load_store_of_disjoint _ (by omega), Memory.load_store_of_disjoint _ (by omega),
    Memory.load_store_of_disjoint _ (by omega), Memory.load_store_of_disjoint _ (by omega),
    Memory.load_store_same (BitVec.isLt _)]

theorem load_gdtBase :
    (startupHotpatch trampoline.toLabels kernel pa page).load
        (trampoline.gdtrOffsetInPage.toNat + 2) 4 =
      ((pa.setWidth 64 + trampoline.gdtOffsetInPage).setWidth 32).toNat := by
  have behind := trampoline.behindCode
  simp only [startupHotpatch, apEntry32InCode, realAddressInCode]
  rw [Memory.load_store_of_disjoint _ (by omega), Memory.load_store_of_disjoint _ (by omega),
    Memory.load_store_of_disjoint _ (by omega), Memory.load_store_same (BitVec.isLt _)]

theorem load_entry32 :
    (startupHotpatch trampoline.toLabels kernel pa page).load apEntry32InCode 4 =
      ((pa.setWidth 64 + trampoline.apEntry32Offset).setWidth 32).toNat := by
  simp only [startupHotpatch, apEntry32InCode, realAddressInCode]
  rw [Memory.load_store_of_disjoint _ (by omega), Memory.load_store_of_disjoint _ (by omega),
    Memory.load_store_same (BitVec.isLt _)]

end Patches

/-! ## The IPI that is sent -/

/-- The startup IPI is sent. -/
def Sends (apStartupAddr : BitVec 32) (world : σ) : Prop :=
  isApWkupAddrrAvailable apStartupAddr = true ∧
    (around.x86MmuMapRange (sipiRange apStartupAddr) world).1 = 0 ∧
    trampoline.size.toNat ≤ 4096

/-- What the CPUs find. -/
def sent (apStartupAddr : BitVec 32) (state : ApState σ) : Startup σ where
  vector := apStartupAddr >>> 12
  page := startupHotpatch trampoline.toLabels kernel apStartupAddr
    (state.page.copy 0 trampoline.code 0 trampoline.size.toNat)
  world := (around.x86MmuMapRange (sipiRange apStartupAddr) state.world).2

theorem awaitCpus_startups (startups : List (Startup σ)) (rounds : Nat) :
    Exec.Preserves (fun state => state.startups = startups) (awaitCpus around rounds) := by
  induction rounds with
  | zero => exact Exec.preserves_stop _ _
  | succ rounds ih =>
      refine Exec.preserves_bind (fun state same => same) fun waken => ?_
      exact Exec.preserves_ite ih (Exec.preserves_pure _ _)

/-- Waiting and unmapping send nothing. -/
theorem await_unmap_startups (startups : List (Startup σ)) (rounds : Nat)
    (range : MapRange) :
    Exec.Preserves (fun state : ApState σ => state.startups = startups) (do
      awaitCpus around rounds
      let _ ← unmapRange around range
      pure ()) := by
  refine Exec.preserves_bind (awaitCpus_startups around startups rounds) fun _ => ?_
  exact Exec.preserves_bind (fun state same => same) fun _ => Exec.preserves_pure _ _

theorem x86MpInit_startups_of_sends (rounds : Nat) {apStartupAddr : BitVec 32}
    (state : ApState σ) (sends : Sends around trampoline apStartupAddr state.world) :
    (x86MpInit around trampoline kernel rounds apStartupAddr state).2.startups =
      state.startups ++ [sent around trampoline kernel apStartupAddr state] := by
  obtain ⟨available, success, fits⟩ := sends
  have mapping : mapRange around (sipiRange apStartupAddr) state =
      (.ok 0, { state with
        world := (around.x86MmuMapRange (sipiRange apStartupAddr) state.world).2 }) := by
    rw [← success]
    rfl
  have room : ¬(sipiRange apStartupAddr).size < trampoline.size.setWidth 64 := by
    simp only [sipiRange, BitVec.not_lt, BitVec.le_def, BitVec.toNat_setWidth]
    simp
    omega
  rw [x86MpInit]
  simp only [available, not_true_eq_false, if_false]
  rw [Exec.bind_of_ok mapping, if_neg (not_not.mpr rfl), if_neg room]
  exact await_unmap_startups around _ rounds _ _ rfl

theorem x86MpInit_startups_of_not_sends (rounds : Nat) {apStartupAddr : BitVec 32}
    (state : ApState σ) (refused : ¬Sends around trampoline apStartupAddr state.world) :
    (x86MpInit around trampoline kernel rounds apStartupAddr state).2.startups =
      state.startups := by
  rw [x86MpInit]
  by_cases available : isApWkupAddrrAvailable apStartupAddr = true
  · simp only [available, not_true_eq_false, if_false]
    have mapping : mapRange around (sipiRange apStartupAddr) state =
        (.ok (around.x86MmuMapRange (sipiRange apStartupAddr) state.world).1,
          { state with
            world := (around.x86MmuMapRange (sipiRange apStartupAddr) state.world).2 }) :=
      rfl
    rw [Exec.bind_of_ok mapping]
    by_cases success : (around.x86MmuMapRange (sipiRange apStartupAddr) state.world).1 = 0
    · have large : (sipiRange apStartupAddr).size < trampoline.size.setWidth 64 := by
        simp only [sipiRange, BitVec.lt_def, BitVec.toNat_setWidth]
        simp only [Sends, available, success, true_and, Nat.not_le] at refused
        simp
        omega
      rw [if_neg (not_not.mpr success), if_pos large]
      rfl
    · rw [if_pos success]
      rfl
  · rw [if_pos available]
    rfl

/-! ## Addresses below 1 MiB -/

section Addresses

variable {apStartupAddr : BitVec 32}

theorem toNat_lt_of_available (available : isApWkupAddrrAvailable apStartupAddr = true) :
    apStartupAddr.toNat < 0x100000 := by
  simpa [isApWkupAddrrAvailable, oneMbAddr, BitVec.lt_def] using available

/-- The virtual and the physical start are at the same place of their pages. -/
theorem sipiRange_congruent (available : isApWkupAddrrAvailable apStartupAddr = true) :
    (sipiRange apStartupAddr).startVaddr.toNat % 4096 = apStartupAddr.toNat % 4096 := by
  have low := toNat_lt_of_available available
  have base : (0xFFFFFFFF00000000 : BitVec 64).toNat = 0xFFFFFFFF00000000 := rfl
  rw [sipiRange, BitVec.toNat_add, BitVec.toNat_setWidth, base]
  omega

/-- The bytes of the first page are where they should be. -/
theorem vaddrToPaddr_sipi {world : σ} (sends : Sends around trampoline apStartupAddr world)
    {i : Nat} (inPage : apStartupAddr.toNat % 4096 + i < 4096) :
    (around.vaddrToPaddr (around.x86MmuMapRange (sipiRange apStartupAddr) world).2
        ((sipiRange apStartupAddr).startVaddr + .ofNat 64 i)).toNat =
      apStartupAddr.toNat + i := by
  obtain ⟨available, success, -⟩ := sends
  have low := toNat_lt_of_available available
  have place := sipiRange_congruent available
  have start : (sipiRange apStartupAddr).startPaddr.toNat = apStartupAddr.toNat := by
    rw [sipiRange, BitVec.toNat_setWidth]
    exact Nat.mod_eq_of_lt (by omega)
  have length : (sipiRange apStartupAddr).size.toNat = 4096 := rfl
  rw [around.mapped _ _ success (by rw [place, start]) i (by omega) (by omega),
    BitVec.toNat_add, start, BitVec.toNat_ofNat]
  omega

variable (apStartupAddr) in
theorem sent_address (state : ApState σ) :
    (sent around trampoline kernel apStartupAddr state).address =
      apStartupAddr.toNat / 4096 * 4096 := by
  simp [sent, Startup.address, Nat.shiftRight_eq_div_pow]

/-- An address in the copy is not truncated. -/
theorem toNat_patched (available : isApWkupAddrrAvailable apStartupAddr = true)
    {offset : BitVec 64} (inPage : offset.toNat < 4096) :
    ((apStartupAddr.setWidth 64 + offset).setWidth 32).toNat =
      apStartupAddr.toNat + offset.toNat := by
  have low := toNat_lt_of_available available
  rw [BitVec.toNat_setWidth, BitVec.toNat_add, BitVec.toNat_setWidth]
  omega

/-- From the start of a page the CPUs run in the copy. -/
theorem sent_inCopy {state : ApState σ}
    (sends : Sends around trampoline apStartupAddr state.world)
    (aligned : apStartupAddr.toNat % 4096 = 0) :
    (sent around trampoline kernel apStartupAddr state).InCopy around trampoline
      (sipiRange apStartupAddr) := by
  have located {i : Nat} (inPage : i < 4096) := vaddrToPaddr_sipi around trampoline sends
    (i := i) (by omega)
  obtain ⟨available, success, fits⟩ := sends
  have low := toNat_lt_of_available available
  have address := sent_address around trampoline kernel apStartupAddr state
  have whole : apStartupAddr.toNat / 4096 * 4096 = apStartupAddr.toNat := by omega
  have gdt := trampoline.gdtInside
  have entry := trampoline.entryInside
  rw [whole] at address
  have label {offset : BitVec 64} (inPage : offset.toNat < 4096) :
      (around.vaddrToPaddr
          (around.x86MmuMapRange (sipiRange apStartupAddr) state.world).2
          ((sipiRange apStartupAddr).startVaddr + offset)).toNat =
        apStartupAddr.toNat + offset.toNat := by
    have byte := located inPage
    rw [BitVec.ofNat_toNat, BitVec.setWidth_eq] at byte
    exact byte
  constructor
  · have first := located (i := 0) (by omega)
    rw [address]
    simpa [sent] using first
  · rw [address, sent, load_segment]
    simp only [BitVec.toNat_setWidth, BitVec.toNat_ushiftRight, Nat.shiftRight_eq_div_pow]
    omega
  · intro i inside
    rw [address]
    refine ⟨located (by omega), ?_, ?_⟩
    · simp only [sent, BitVec.toNat_ushiftRight, Nat.shiftRight_eq_div_pow]
      omega
    · change apStartupAddr.toNat + i < 0x100000
      omega
  · rw [sent, load_gdtBase, toNat_patched available (by omega), label (by omega)]
  · rw [sent, load_entry32, toNat_patched available (by omega), label (by omega)]

/-- The start of the copy is where the IPI says only at the start of a page. -/
theorem aligned_of_inCopy {state : ApState σ}
    (sends : Sends around trampoline apStartupAddr state.world)
    (inCopy : (sent around trampoline kernel apStartupAddr state).InCopy around trampoline
      (sipiRange apStartupAddr)) : apStartupAddr.toNat % 4096 = 0 := by
  have first := vaddrToPaddr_sipi around trampoline sends (i := 0) (by omega)
  have copied := inCopy.copied
  rw [sent_address] at copied
  simp only [sent, BitVec.add_zero, Nat.add_zero] at first copied
  omega

end Addresses

/-- The CPUs are started in the copy exactly if the address is that of a page, or no
startup IPI is sent. -/
theorem apStartup_inCopy_iff (rounds : Nat) (apStartupAddr : BitVec 32)
    (page : Memory (BitVec 8)) (world : σ) :
    (∀ startup ∈ (x86MpInit around trampoline kernel rounds apStartupAddr
        ⟨page, world, []⟩).2.startups,
      startup.InCopy around trampoline (sipiRange apStartupAddr)) ↔
      (Sends around trampoline apStartupAddr world → apStartupAddr.toNat % 4096 = 0) := by
  by_cases sends : Sends around trampoline apStartupAddr world
  · have startups := x86MpInit_startups_of_sends around trampoline kernel rounds
      ⟨page, world, []⟩ sends
    rw [startups, List.nil_append, List.forall_mem_singleton, forall_prop_of_true sends]
    constructor
    · exact aligned_of_inCopy around trampoline kernel sends
    · exact sent_inCopy around trampoline kernel sends
  · have startups := x86MpInit_startups_of_not_sends around trampoline kernel rounds
      ⟨page, world, []⟩ sends
    rw [startups]
    simp [sends]

/-- Page tables that remember the last range, and CPUs that start at once. -/
def Surroundings.lastRange : Surroundings MapRange where
  x86MmuMapRange range _ := (0, range)
  x86MmuUnmap _ world := (0, world)
  cpuWakenUp world := (4, world)
  smpMaxCpus := 4
  vaddrToPaddr world address := world.startPaddr + (address - world.startVaddr)
  mapped := by
    intro range world _ _ i _ _
    grind

/-- The instructions, the GDT register behind them and a table of four entries. -/
def Trampoline.small : Trampoline where
  apEntry16 := 0
  apEntry32 := 0x1D
  apGdtr := 0x30
  apGdtTable := 0x38
  apGdtTableEnd := 0x58
  code _ := 0
  behindCode := by decide
  gdtrInside := by decide
  gdtInside := by decide
  entryInside := by decide

/-- From inside a page the CPUs start in front of the copy. -/
theorem misaligned_start_outside :
    isApWkupAddrrAvailable 0x8010 = true ∧
      ¬∀ startup ∈ (x86MpInit Surroundings.lastRange Trampoline.small ⟨0, 0⟩ 1 0x8010
          ⟨fun _ => 0, ⟨0, 0, 0⟩, []⟩).2.startups,
        startup.InCopy Surroundings.lastRange Trampoline.small (sipiRange 0x8010) := by
  have sends : Sends Surroundings.lastRange Trampoline.small 0x8010 ⟨0, 0, 0⟩ :=
    ⟨by decide, rfl, by decide⟩
  have startups := x86MpInit_startups_of_sends Surroundings.lastRange Trampoline.small
    ⟨0, 0⟩ 1 ⟨fun _ => 0, ⟨0, 0, 0⟩, []⟩ sends
  refine ⟨sends.1, fun all => ?_⟩
  rw [startups, List.nil_append, List.forall_mem_singleton] at all
  exact absurd (aligned_of_inCopy _ _ _ sends all) (by decide)

end SandPlatform.Boot
