import SandPlatform.DeviceInfo.KeyboxBlock

/-!
# Runs of the system call

Every run of `sys_get_device_info` goes one of a few ways.  The ways are listed
once, with the state each of them leaves, so that a property of all runs is a
case analysis over them.
-/

namespace SandPlatform.DeviceInfo

open SandPlatform.Foundation
open SandPlatform.Hardware
open SandPlatform.Heci
open SandPlatform.Kernel

universe u

variable {σ : Type u} (device : Device σ) (env : Env) (bound : Nat)

/-! ## Providing the keybox -/

/-- How the size of the keybox comes about: zero without a download, or what a
call of `copy_attkb_to_user` returned. -/
inductive RetrieveRun (info : Nat) (kernel : Kernel σ) :
    Except Stop Nat × Kernel σ → Prop
  | absent (hw : Hw σ) : RetrieveRun info kernel (.ok 0, kernel.setHw hw)
  | called {hw : Hw σ} {run : Except Stop Nat × Kernel σ}
      (ran : AttkbRun env (info + trustyDeviceInfoSize) (kernel.setHw hw) run) :
      RetrieveRun info kernel run

/-- The read of the firmware status leaves only the hardware changed. -/
theorem pciRead32_zoom (kernel : Kernel σ) :
    ∃ state hw, Exec.zoom (fun kernel : Kernel σ => kernel.download.hw)
      Kernel.setHw (pciRead32 device heci1Bus heci1Dev heci1Func heci1Reg) kernel =
        (.ok state, kernel.setHw hw) :=
  ⟨_, _, rfl⟩

theorem retrieveAttkb_run (info : Nat) (kernel : Kernel σ) :
    RetrieveRun env info kernel (retrieveAttkb device env bound info kernel) := by
  rw [retrieveAttkb]
  cases env.attkbHeci with
  | false => exact .absent kernel.download.hw
  | true =>
      obtain ⟨state, hw, outcome⟩ := pciRead32_zoom device kernel
      rw [if_pos rfl, Exec.bind_of_ok outcome]
      by_cases manufacturing : Hfs1.manufMode state ≠ 0
      · rw [if_pos manufacturing]
        exact .absent hw
      · rw [if_neg manufacturing]
        exact .called (copyAttkbToUser_run device env bound
          (info + trustyDeviceInfoSize) (kernel.setHw hw))

theorem provideAttkb_of_granted {permission : Permission}
    (granted : permission.Has Permission.getAttkb) (info : Nat)
    (devInfo : Memory Cell) :
    provideAttkb device env bound permission info devInfo =
      (retrieveAttkb device env bound info >>= fun attkbSize =>
        pure (storeAttkbSize devInfo attkbSize)) :=
  if_pos granted

theorem provideAttkb_of_denied {permission : Permission}
    (denied : ¬ permission.Has Permission.getAttkb) (info : Nat)
    (devInfo : Memory Cell) (kernel : Kernel σ) :
    provideAttkb device env bound permission info devInfo kernel =
      (.ok (wipeField devInfo SecInfo.attkbEncKey), kernel) := by
  rw [provideAttkb, if_neg denied]
  rfl

/-- What becomes of the structure: the key is wiped, or the size is stored. -/
inductive ProvideRun (permission : Permission) (info : Nat)
    (devInfo : Memory Cell) (kernel : Kernel σ) :
    Except Stop (Memory Cell) × Kernel σ → Prop
  | withheld (denied : ¬ permission.Has Permission.getAttkb) :
      ProvideRun permission info devInfo kernel
        (.ok (wipeField devInfo SecInfo.attkbEncKey), kernel)
  | retrieved (granted : permission.Has Permission.getAttkb) {size : Nat}
      {final : Kernel σ} (ran : RetrieveRun env info kernel (.ok size, final)) :
      ProvideRun permission info devInfo kernel
        (.ok (storeAttkbSize devInfo size), final)
  | stopped (granted : permission.Has Permission.getAttkb) {reason : Stop}
      {final : Kernel σ} (ran : RetrieveRun env info kernel (.error reason, final)) :
      ProvideRun permission info devInfo kernel (.error reason, final)

theorem provideAttkb_run (permission : Permission) (info : Nat)
    (devInfo : Memory Cell) (kernel : Kernel σ) :
    ProvideRun env permission info devInfo kernel
      (provideAttkb device env bound permission info devInfo kernel) := by
  by_cases granted : permission.Has Permission.getAttkb
  · rw [provideAttkb_of_granted device env bound granted]
    have ran := retrieveAttkb_run device env bound info kernel
    rcases outcome : retrieveAttkb device env bound info kernel with
      ⟨reason | size, final⟩
    · rw [outcome] at ran
      rw [Exec.bind_of_error outcome]
      exact .stopped granted ran
    · rw [outcome] at ran
      rw [Exec.bind_of_ok outcome]
      exact .retrieved granted ran
  · rw [provideAttkb_of_denied device env bound granted]
    exact .withheld granted

/-! ## The whole call -/

/-- The state after the size check. -/
def Kernel.checked (kernel : Kernel σ) : Kernel σ :=
  kernel.readSecInfo SecInfo.sizeOfThisStruct.start SecInfo.sizeOfThisStruct.size

/-- The state after the block has been copied. -/
def Kernel.filled (kernel : Kernel σ) : Kernel σ :=
  kernel.checked.checked.readSecInfo 0 deviceSecInfoSize

/-- The structure before the keybox is provided. -/
def preparedDevInfo (permission : Permission) (secInfo contents : Memory (BitVec 8)) :
    Memory Cell :=
  withholdSecrets permission ((staleBlock contents).copy 0 (secInfoCells secInfo) 0
    deviceSecInfoSize)

/-- The state in which the structure has been copied out. -/
def Kernel.copiedOut (info : Nat) (devInfo : Memory Cell) (kernel : Kernel σ) :
    Kernel σ :=
  kernel.copyOut info (devInfo.read 0 trustyDeviceInfoSize)
    (env.copyOut info trustyDeviceInfoSize).copied

/-- The ways a call of `sys_get_device_info` can go. -/
inductive SysRun (secInfo : Memory (BitVec 8)) (info : Nat) (kernel : Kernel σ) :
    Except Stop Code × Kernel σ → Prop
  | mismatch (differs : readU32 secInfo SecInfo.sizeOfThisStruct ≠
      deviceSecInfoSize) :
      SysRun secInfo info kernel (.error .panic, kernel.checked)
  | notAllowed
      (expected : readU32 secInfo SecInfo.sizeOfThisStruct = deviceSecInfoSize)
      (denied : getTaPermission env.uuid = Permission.getNone) :
      SysRun secInfo info kernel (.ok .notAllowed, kernel.checked)
  | noMemory
      (expected : readU32 secInfo SecInfo.sizeOfThisStruct = deviceSecInfoSize)
      (granted : getTaPermission env.uuid ≠ Permission.getNone)
      (null : env.devInfoBlock = none) :
      SysRun secInfo info kernel (.ok .noMemory, kernel.checked)
  | stopped {contents : Memory (BitVec 8)} {reason : Stop} {final : Kernel σ}
      (expected : readU32 secInfo SecInfo.sizeOfThisStruct = deviceSecInfoSize)
      (granted : getTaPermission env.uuid ≠ Permission.getNone)
      (allocated : env.devInfoBlock = some contents)
      (provided : ProvideRun env (getTaPermission env.uuid) info
        (preparedDevInfo (getTaPermission env.uuid) secInfo contents)
        kernel.filled (.error reason, final)) :
      SysRun secInfo info kernel (.error reason, final)
  | faulted {contents : Memory (BitVec 8)} {devInfo : Memory Cell}
      {final : Kernel σ}
      (expected : readU32 secInfo SecInfo.sizeOfThisStruct = deviceSecInfoSize)
      (granted : getTaPermission env.uuid ≠ Permission.getNone)
      (allocated : env.devInfoBlock = some contents)
      (provided : ProvideRun env (getTaPermission env.uuid) info
        (preparedDevInfo (getTaPermission env.uuid) secInfo contents)
        kernel.filled (.ok devInfo, final)) :
      SysRun secInfo info kernel (.error .panic, final.copiedOut env info devInfo)
  | delivered {contents : Memory (BitVec 8)} {devInfo : Memory Cell}
      {final : Kernel σ}
      (expected : readU32 secInfo SecInfo.sizeOfThisStruct = deviceSecInfoSize)
      (granted : getTaPermission env.uuid ≠ Permission.getNone)
      (allocated : env.devInfoBlock = some contents)
      (provided : ProvideRun env (getTaPermission env.uuid) info
        (preparedDevInfo (getTaPermission env.uuid) secInfo contents)
        kernel.filled (.ok devInfo, final)) :
      SysRun secInfo info kernel
        (.ok .noError, (final.copiedOut env info devInfo).free trustyDeviceInfoSize
          (secureMemzero devInfo 0 trustyDeviceInfoSize))

theorem deliverDevInfo_apply (info : Nat) (devInfo : Memory Cell)
    (kernel : Kernel σ) :
    deliverDevInfo env info devInfo kernel =
      if (env.copyOut info trustyDeviceInfoSize).status ≠ 0 then
        (.error .panic, kernel.copiedOut env info devInfo)
      else
        (.ok .noError, (kernel.copiedOut env info devInfo).free trustyDeviceInfoSize
          (secureMemzero devInfo 0 trustyDeviceInfoSize)) := by
  have copies : copyToUser env info devInfo trustyDeviceInfoSize kernel =
      (.ok (env.copyOut info trustyDeviceInfoSize).status,
        kernel.copiedOut env info devInfo) := rfl
  rw [deliverDevInfo, Exec.bind_of_ok copies]
  split
  · rfl
  · rfl

theorem readSizeOfThisStruct_apply (secInfo : Memory (BitVec 8))
    (kernel : Kernel σ) :
    readSizeOfThisStruct secInfo kernel =
      (.ok (readU32 secInfo SecInfo.sizeOfThisStruct), kernel.checked) :=
  rfl

/-- With a block of the expected size the copy never fails. -/
theorem fillDevInfo_apply {secInfo : Memory (BitVec 8)}
    (expected : readU32 secInfo SecInfo.sizeOfThisStruct = deviceSecInfoSize)
    (permission : Permission) (contents : Memory (BitVec 8)) (info : Nat)
    (kernel : Kernel σ) :
    fillDevInfo device env bound secInfo permission contents info kernel.checked =
      (provideAttkb device env bound permission info
          (preparedDevInfo permission secInfo contents) >>=
        deliverDevInfo env info) kernel.filled := by
  rw [fillDevInfo, Exec.bind_of_ok (readSizeOfThisStruct_apply secInfo _), expected]
  simp only [memcpyS_self]
  rfl

/-- For a permitted application with a block, the call provides the keybox and
delivers the structure. -/
theorem sysGetDeviceInfo_of_block {secInfo contents : Memory (BitVec 8)}
    (expected : readU32 secInfo SecInfo.sizeOfThisStruct = deviceSecInfoSize)
    (granted : getTaPermission env.uuid ≠ Permission.getNone)
    (allocated : env.devInfoBlock = some contents) (info : Nat)
    (kernel : Kernel σ) :
    sysGetDeviceInfo device env bound secInfo info kernel =
      (provideAttkb device env bound (getTaPermission env.uuid) info
          (preparedDevInfo (getTaPermission env.uuid) secInfo contents) >>=
        deliverDevInfo env info) kernel.filled := by
  rw [sysGetDeviceInfo, Exec.bind_of_ok (readSizeOfThisStruct_apply secInfo kernel),
    if_neg (not_not.mpr expected), if_neg granted, allocated]
  exact fillDevInfo_apply device env bound expected _ contents info kernel

/-- An application without permission gets an error and nothing else. -/
theorem sysGetDeviceInfo_of_denied {secInfo : Memory (BitVec 8)}
    (expected : readU32 secInfo SecInfo.sizeOfThisStruct = deviceSecInfoSize)
    (denied : getTaPermission env.uuid = Permission.getNone) (info : Nat)
    (kernel : Kernel σ) :
    sysGetDeviceInfo device env bound secInfo info kernel =
      (.ok .notAllowed, kernel.checked) := by
  rw [sysGetDeviceInfo, Exec.bind_of_ok (readSizeOfThisStruct_apply secInfo kernel),
    if_neg (not_not.mpr expected), if_pos denied]
  rfl

theorem sysGetDeviceInfo_of_null {secInfo : Memory (BitVec 8)}
    (expected : readU32 secInfo SecInfo.sizeOfThisStruct = deviceSecInfoSize)
    (granted : getTaPermission env.uuid ≠ Permission.getNone)
    (null : env.devInfoBlock = none) (info : Nat) (kernel : Kernel σ) :
    sysGetDeviceInfo device env bound secInfo info kernel =
      (.ok .noMemory, kernel.checked) := by
  rw [sysGetDeviceInfo, Exec.bind_of_ok (readSizeOfThisStruct_apply secInfo kernel),
    if_neg (not_not.mpr expected), if_neg granted, null]
  rfl

theorem sysGetDeviceInfo_of_mismatch {secInfo : Memory (BitVec 8)}
    (differs : readU32 secInfo SecInfo.sizeOfThisStruct ≠ deviceSecInfoSize)
    (info : Nat) (kernel : Kernel σ) :
    sysGetDeviceInfo device env bound secInfo info kernel =
      (.error .panic, kernel.checked) := by
  rw [sysGetDeviceInfo, Exec.bind_of_ok (readSizeOfThisStruct_apply secInfo kernel),
    if_pos differs]
  rfl

theorem sysGetDeviceInfo_run (secInfo : Memory (BitVec 8)) (info : Nat)
    (kernel : Kernel σ) :
    SysRun env secInfo info kernel
      (sysGetDeviceInfo device env bound secInfo info kernel) := by
  by_cases expected : readU32 secInfo SecInfo.sizeOfThisStruct = deviceSecInfoSize
  · by_cases denied : getTaPermission env.uuid = Permission.getNone
    · rw [sysGetDeviceInfo_of_denied device env bound expected denied]
      exact .notAllowed expected denied
    · cases allocated : env.devInfoBlock with
      | none =>
          rw [sysGetDeviceInfo_of_null device env bound expected denied allocated]
          exact .noMemory expected denied allocated
      | some contents =>
          rw [sysGetDeviceInfo_of_block device env bound expected denied allocated]
          have ran := provideAttkb_run device env bound (getTaPermission env.uuid)
            info (preparedDevInfo (getTaPermission env.uuid) secInfo contents)
            kernel.filled
          rcases provided : provideAttkb device env bound
              (getTaPermission env.uuid) info
              (preparedDevInfo (getTaPermission env.uuid) secInfo contents)
              kernel.filled with
            ⟨reason | devInfo, final⟩
          · rw [provided] at ran
            rw [Exec.bind_of_error provided]
            exact .stopped expected denied allocated ran
          · rw [provided] at ran
            rw [Exec.bind_of_ok provided, deliverDevInfo_apply]
            split
            · exact .faulted expected denied allocated ran
            · exact .delivered expected denied allocated ran
  · rw [sysGetDeviceInfo_of_mismatch device env bound expected]
    exact .mismatch expected

/-! ## Reads of the secure-info block -/

theorem AttkbRun.secReads_eq {userAttkb : Nat} {kernel : Kernel σ}
    {run : Except Stop Nat × Kernel σ} (ran : AttkbRun env userAttkb kernel run) :
    run.2.secReads = kernel.secReads := by
  cases ran <;> rfl

theorem ProvideRun.secReads_eq {permission : Permission} {info : Nat}
    {devInfo : Memory Cell} {kernel : Kernel σ}
    {run : Except Stop (Memory Cell) × Kernel σ}
    (ran : ProvideRun env permission info devInfo kernel run) :
    run.2.secReads = kernel.secReads := by
  cases ran with
  | withheld denied => rfl
  | retrieved granted ran =>
      cases ran with
      | absent hw => rfl
      | called ran => exact ran.secReads_eq
  | stopped granted ran =>
      cases ran with
      | called ran => exact ran.secReads_eq

/-- Every call reads the first word of the block. -/
theorem SysRun.secReads_ne_nil {secInfo : Memory (BitVec 8)} {info : Nat}
    {kernel : Kernel σ} {run : Except Stop Code × Kernel σ}
    (ran : SysRun env secInfo info kernel run) : run.2.secReads ≠ [] := by
  have checked : kernel.checked.secReads ≠ [] := List.append_ne_nil_of_right_ne_nil _
    (List.cons_ne_nil _ _)
  have filled : kernel.filled.secReads ≠ [] := List.append_ne_nil_of_right_ne_nil _
    (List.cons_ne_nil _ _)
  cases ran with
  | mismatch differs => exact checked
  | notAllowed expected denied => exact checked
  | noMemory expected granted null => exact checked
  | stopped expected granted allocated provided =>
      exact provided.secReads_eq ▸ filled
  | faulted expected granted allocated provided =>
      have same := provided.secReads_eq
      exact same ▸ filled
  | delivered expected granted allocated provided =>
      have same := provided.secReads_eq
      exact same ▸ filled

end SandPlatform.DeviceInfo
