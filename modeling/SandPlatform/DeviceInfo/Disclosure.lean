import SandPlatform.DeviceInfo.Definedness

/-!
# What an application can learn

Two secure-info blocks that agree on the members an application is entitled to
lead to the same outcome and the same user memory.  The two structures differ, if
at all, only in the key of the keybox, and that is wiped unless the application
may get the keybox.
-/

namespace SandPlatform.DeviceInfo

open SandPlatform.Foundation
open SandPlatform.Hardware
open SandPlatform.Heci
open SandPlatform.Kernel

universe u

/-! ## The structure -/

theorem wipeField_of_contains {devInfo : Memory Cell} {field : Field} {i : Nat}
    (inside : field.Contains i) : wipeField devInfo field i = Cell.zero :=
  Memory.fill_apply_of_mem inside.1 inside.2

theorem wipeField_zero {devInfo : Memory Cell} {i : Nat}
    (clear : devInfo i = Cell.zero) (field : Field) :
    wipeField devInfo field i = Cell.zero := by
  by_cases inside : field.Contains i
  · exact wipeField_of_contains inside
  · rw [wipeField_of_not_contains _ inside]
    exact clear

theorem withholdSecrets_zero {devInfo : Memory Cell} {i : Nat}
    {permission : Permission}
    (clear : wipeField (wipeField devInfo SecInfo.dseedList) SecInfo.useedList i =
      Cell.zero) (denied : ¬ permission.Has Permission.getSeed) :
    withholdSecrets permission devInfo i = Cell.zero := by
  by_cases rpmb : permission.Has Permission.getRpmbKey
  · simpa [withholdSecrets, denied, rpmb] using clear
  · simpa [withholdSecrets, denied, rpmb] using wipeField_zero clear _

/-- Without their permission the seeds are wiped. -/
theorem withholdSecrets_seed {permission : Permission} {field : Field} {i : Nat}
    (denied : ¬ permission.Has Permission.getSeed)
    (isSeed : field = SecInfo.useedList ∨ field = SecInfo.dseedList)
    (inside : field.Contains i) (devInfo : Memory Cell) :
    withholdSecrets permission devInfo i = Cell.zero := by
  rcases isSeed with rfl | rfl
  · exact withholdSecrets_zero (wipeField_of_contains inside) denied
  · exact withholdSecrets_zero (wipeField_zero (wipeField_of_contains inside) _)
      denied

/-- Without their permission the RPMB keys are wiped. -/
theorem withholdSecrets_rpmb {permission : Permission} {i : Nat}
    (denied : ¬ permission.Has Permission.getRpmbKey)
    (inside : SecInfo.rpmbKey.Contains i) (devInfo : Memory Cell) :
    withholdSecrets permission devInfo i = Cell.zero := by
  rw [withholdSecrets, if_pos denied]
  exact wipeField_of_contains inside

/-- The prepared structures agree wherever the key of the keybox is not kept from
the application. -/
theorem preparedDevInfo_agree {permission : Permission}
    (permitted : permission ≠ Permission.getNone)
    {secInfo secInfo' : Memory (BitVec 8)}
    (agree : AgreeOnEntitled permission secInfo secInfo')
    (contents : Memory (BitVec 8)) {i : Nat}
    (visible : SecInfo.attkbEncKey.Contains i →
      permission.Has Permission.getAttkb) :
    preparedDevInfo permission secInfo contents i =
      preparedDevInfo permission secInfo' contents i := by
  by_cases behind : deviceSecInfoSize ≤ i
  · rw [preparedDevInfo_behind permission secInfo contents behind,
      preparedDevInfo_behind permission secInfo' contents behind]
  · obtain ⟨field, member, inside⟩ := exists_field (Nat.lt_of_not_le behind)
    by_cases entitled : Entitled permission field
    · apply withholdSecrets_congr
      rw [Memory.copy_apply_of_mem (Nat.zero_le i) (by omega),
        Memory.copy_apply_of_mem (Nat.zero_le i) (by omega), Nat.zero_add,
        Nat.sub_zero, secInfoCells, secInfoCells, agree field member entitled i inside]
    · rcases secret_of_not_entitled permitted entitled with
        ⟨denied, isSeed⟩ | ⟨denied, rfl⟩ | ⟨denied, rfl⟩
      · rw [preparedDevInfo, preparedDevInfo,
          withholdSecrets_seed denied isSeed inside,
          withholdSecrets_seed denied isSeed inside]
      · rw [preparedDevInfo, preparedDevInfo, withholdSecrets_rpmb denied inside,
          withholdSecrets_rpmb denied inside]
      · exact absurd (visible inside) denied

/-- With the permission for the keybox the prepared structures are the same. -/
theorem preparedDevInfo_eq {permission : Permission}
    (permitted : permission ≠ Permission.getNone)
    {secInfo secInfo' : Memory (BitVec 8)}
    (agree : AgreeOnEntitled permission secInfo secInfo')
    (granted : permission.Has Permission.getAttkb)
    (contents : Memory (BitVec 8)) :
    preparedDevInfo permission secInfo contents =
      preparedDevInfo permission secInfo' contents :=
  funext fun _ => preparedDevInfo_agree permitted agree contents fun _ => granted

/-- Wiping the key of the keybox removes the only difference. -/
theorem withheldDevInfo_eq {permission : Permission}
    (permitted : permission ≠ Permission.getNone)
    {secInfo secInfo' : Memory (BitVec 8)}
    (agree : AgreeOnEntitled permission secInfo secInfo')
    (contents : Memory (BitVec 8)) :
    wipeField (preparedDevInfo permission secInfo contents) SecInfo.attkbEncKey =
      wipeField (preparedDevInfo permission secInfo' contents)
        SecInfo.attkbEncKey := by
  funext i
  by_cases inside : SecInfo.attkbEncKey.Contains i
  · rw [wipeField_of_contains inside, wipeField_of_contains inside]
  · rw [wipeField_of_not_contains _ inside, wipeField_of_not_contains _ inside]
    exact preparedDevInfo_agree permitted agree contents (absurd · inside)

/-! ## Two runs -/

section Runs

variable {σ : Type u} (env : Env) (bound : Nat)

/-- What the caller can observe of a finished or stopped call. -/
def observed (run : Except Stop Code × Kernel σ) :
    Except Stop Code × Memory (BitVec 8) :=
  (run.1, run.2.user)

/-- Delivering a structure to the same user memory looks the same. -/
theorem observed_deliverDevInfo (info : Nat) (devInfo : Memory Cell)
    {kernel kernel' : Kernel σ} (same : kernel.user = kernel'.user) :
    observed (deliverDevInfo env info devInfo kernel) =
      observed (deliverDevInfo env info devInfo kernel') := by
  rw [deliverDevInfo_apply, deliverDevInfo_apply]
  have copied : (kernel.copiedOut env info devInfo).user =
      (kernel'.copiedOut env info devInfo).user := by
    rw [Kernel.copiedOut, Kernel.copiedOut, Kernel.copyOut, Kernel.copyOut, same]
  split
  · exact Prod.ext rfl copied
  · exact Prod.ext rfl copied

/-- Outcome and user memory depend only on the members the application is
entitled to, on the CSE only with the permission for the keybox, and without any
permission nothing is written to user memory. -/
theorem sysGetDeviceInfo_discloses_entitled {device device' : Device σ}
    {hw hw' : Hw σ} {secInfo secInfo' : Memory (BitVec 8)}
    (user : Memory (BitVec 8)) (info : Nat)
    (expected : readU32 secInfo SecInfo.sizeOfThisStruct = deviceSecInfoSize)
    (expected' : readU32 secInfo' SecInfo.sizeOfThisStruct = deviceSecInfoSize)
    (agree : AgreeOnEntitled (getTaPermission env.uuid) secInfo secInfo')
    (sameCse : (getTaPermission env.uuid).Has Permission.getAttkb →
      device = device' ∧ hw = hw') :
    observed (sysGetDeviceInfo device env bound secInfo info
        (Kernel.start hw user)) =
      observed (sysGetDeviceInfo device' env bound secInfo' info
        (Kernel.start hw' user)) ∧
      (¬ InMatrix env.uuid →
        (sysGetDeviceInfo device env bound secInfo info
          (Kernel.start hw user)).2.user = user ∧
        (sysGetDeviceInfo device env bound secInfo info
          (Kernel.start hw user)).2.copies = []) := by
  by_cases denied : getTaPermission env.uuid = Permission.getNone
  · rw [sysGetDeviceInfo_of_denied device env bound expected denied,
      sysGetDeviceInfo_of_denied device' env bound expected' denied]
    exact ⟨rfl, fun _ => ⟨rfl, rfl⟩⟩
  · refine ⟨?_, fun outside =>
      absurd ((getTaPermission_eq_none_iff env.uuid).mpr outside) denied⟩
    cases allocated : env.devInfoBlock with
    | none =>
        rw [sysGetDeviceInfo_of_null device env bound expected denied allocated,
          sysGetDeviceInfo_of_null device' env bound expected' denied allocated]
        rfl
    | some contents =>
        rw [sysGetDeviceInfo_of_block device env bound expected denied allocated,
          sysGetDeviceInfo_of_block device' env bound expected' denied allocated]
        by_cases granted : (getTaPermission env.uuid).Has Permission.getAttkb
        · obtain ⟨rfl, rfl⟩ := sameCse granted
          rw [preparedDevInfo_eq denied agree granted contents]
        · rw [Exec.bind_of_ok (provideAttkb_of_denied device env bound granted info
              _ _),
            Exec.bind_of_ok (provideAttkb_of_denied device' env bound granted info
              _ _),
            withheldDevInfo_eq denied agree contents]
          exact observed_deliverDevInfo env info _ rfl

end Runs

/-- The clear block with one byte of a device seed set. -/
def seededSecInfo : Memory (BitVec 8) :=
  fun i => if i = 800 then 0xFF else blankSecInfo i

theorem agree_seededSecInfo :
    AgreeOnEntitled (getTaPermission secureStorageServerAppUuid) blankSecInfo
      seededSecInfo := by
  have onlySeed : ∀ field ∈ SecInfo.fields, field.Contains 800 →
      field = SecInfo.dseedList := by decide
  have denied : ¬ (getTaPermission secureStorageServerAppUuid).Has
      Permission.getSeed := by decide
  intro field member entitled i inside
  by_cases seedByte : i = 800
  · subst seedByte
    exact absurd (entitled.seed (Or.inr (onlySeed field member inside))) denied
  · exact (if_neg seedByte).symm

/-- The secure storage server sees neither the seed byte nor the CSE. -/
theorem secureStorage_sees_no_seed :
    observed (sysGetDeviceInfo interruptedDevice
        (calmEnv secureStorageServerAppUuid) 0 blankSecInfo 0
        (Kernel.start ⟨Mailbox.empty, []⟩ fun _ => 0)) =
      observed (sysGetDeviceInfo oversizeDevice
        (calmEnv secureStorageServerAppUuid) 0 seededSecInfo 0
        (Kernel.start ⟨Mailbox.empty, []⟩ fun _ => 0)) :=
  (sysGetDeviceInfo_discloses_entitled (calmEnv secureStorageServerAppUuid) 0
    (fun _ => 0) 0 (by decide) (by decide) agree_seededSecInfo
    (fun granted => absurd granted (by decide))).1

end SandPlatform.DeviceInfo
