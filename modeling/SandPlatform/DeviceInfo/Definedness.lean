import SandPlatform.DeviceInfo.Wiping

/-!
# Stale heap bytes

Which bytes of the structure has the call itself written when it copies the
structure out?  The secure-info block fills everything in front of `attkb_size`,
and `attkb_size` is assigned only for an application that may get the keybox.
-/

namespace SandPlatform.DeviceInfo

open SandPlatform.Foundation
open SandPlatform.Hardware
open SandPlatform.Heci
open SandPlatform.Kernel

universe u

/-! ## The structure byte by byte -/

theorem wipeField_congr {first second : Memory Cell} {i : Nat}
    (same : first i = second i) (field : Field) :
    wipeField first field i = wipeField second field i :=
  Memory.fill_congr fun _ => same

theorem wipeField_not_stale {devInfo : Memory Cell} {i : Nat}
    (written : (devInfo i).origin ≠ .stale) (field : Field) :
    (wipeField devInfo field i).origin ≠ .stale := by
  rw [wipeField, secureMemzero]
  by_cases inside : field.Contains i
  · rw [Memory.fill_apply_of_mem inside.1 inside.2]
    simp [Cell.zero]
  · rw [Memory.fill_apply_of_not_mem inside]
    exact written

theorem wipeField_of_not_contains (devInfo : Memory Cell) {field : Field} {i : Nat}
    (outside : ¬ field.Contains i) : wipeField devInfo field i = devInfo i :=
  Memory.fill_apply_of_not_mem outside

theorem withholdSecrets_congr {first second : Memory Cell} {i : Nat}
    (same : first i = second i) (permission : Permission) :
    withholdSecrets permission first i = withholdSecrets permission second i := by
  by_cases seed : permission.Has Permission.getSeed
  · by_cases rpmb : permission.Has Permission.getRpmbKey
    · simpa [withholdSecrets, seed, rpmb] using same
    · simpa [withholdSecrets, seed, rpmb] using wipeField_congr same _
  · have seeds := wipeField_congr (wipeField_congr same SecInfo.dseedList)
      SecInfo.useedList
    by_cases rpmb : permission.Has Permission.getRpmbKey
    · simpa [withholdSecrets, seed, rpmb] using seeds
    · simpa [withholdSecrets, seed, rpmb] using wipeField_congr seeds _

theorem withholdSecrets_not_stale {devInfo : Memory Cell} {i : Nat}
    (written : (devInfo i).origin ≠ .stale) (permission : Permission) :
    (withholdSecrets permission devInfo i).origin ≠ .stale := by
  by_cases seed : permission.Has Permission.getSeed
  · by_cases rpmb : permission.Has Permission.getRpmbKey
    · simpa [withholdSecrets, seed, rpmb] using written
    · simpa [withholdSecrets, seed, rpmb] using wipeField_not_stale written _
  · have seeds := wipeField_not_stale (wipeField_not_stale written
      SecInfo.dseedList) SecInfo.useedList
    by_cases rpmb : permission.Has Permission.getRpmbKey
    · simpa [withholdSecrets, seed, rpmb] using seeds
    · simpa [withholdSecrets, seed, rpmb] using wipeField_not_stale seeds _

/-- Behind the secure-info block nothing is withheld. -/
theorem withholdSecrets_behind {devInfo : Memory Cell} {i : Nat}
    (behind : deviceSecInfoSize ≤ i) (permission : Permission) :
    withholdSecrets permission devInfo i = devInfo i := by
  have outside (field : Field) (member : field ∈ SecInfo.fields) :
      ¬ field.Contains i := by
    intro inside
    have bounds := (fields_tile.mem_bounds (List.mem_map_of_mem member)).2
    exact Nat.lt_irrefl i (Nat.lt_of_lt_of_le inside.2 (Nat.le_trans bounds behind))
  have useed := wipeField_of_not_contains (wipeField devInfo SecInfo.dseedList)
    (outside SecInfo.useedList (by decide))
  have dseed := wipeField_of_not_contains devInfo
    (outside SecInfo.dseedList (by decide))
  have rpmb (wiped : Memory Cell) := wipeField_of_not_contains wiped
    (outside SecInfo.rpmbKey (by decide))
  by_cases seed : permission.Has Permission.getSeed
  · by_cases key : permission.Has Permission.getRpmbKey
    · simp [withholdSecrets, seed, key]
    · simp [withholdSecrets, seed, key, rpmb]
  · by_cases key : permission.Has Permission.getRpmbKey
    · simp [withholdSecrets, seed, key, useed, dseed]
    · simp [withholdSecrets, seed, key, useed, dseed, rpmb]

/-- In front of `attkb_size` the structure does not depend on the heap. -/
theorem preparedDevInfo_congr (permission : Permission)
    (secInfo contents contents' : Memory (BitVec 8)) {i : Nat}
    (inside : i < deviceSecInfoSize) :
    preparedDevInfo permission secInfo contents i =
      preparedDevInfo permission secInfo contents' i := by
  apply withholdSecrets_congr
  rw [Memory.copy_apply_of_mem (Nat.zero_le i) (by omega),
    Memory.copy_apply_of_mem (Nat.zero_le i) (by omega)]

theorem preparedDevInfo_not_stale (permission : Permission)
    (secInfo contents : Memory (BitVec 8)) {i : Nat}
    (inside : i < deviceSecInfoSize) :
    (preparedDevInfo permission secInfo contents i).origin ≠ .stale := by
  apply withholdSecrets_not_stale
  rw [Memory.copy_apply_of_mem (Nat.zero_le i) (by omega)]
  simp [secInfoCells]

/-- Behind the secure-info block the structure is what the heap contained. -/
theorem preparedDevInfo_behind (permission : Permission)
    (secInfo contents : Memory (BitVec 8)) {i : Nat}
    (behind : deviceSecInfoSize ≤ i) :
    preparedDevInfo permission secInfo contents i = staleBlock contents i := by
  rw [preparedDevInfo, withholdSecrets_behind behind,
    Memory.copy_apply_of_ge (by omega)]

/-- With `attkb_size` assigned, the copied part does not depend on the heap. -/
theorem storeAttkbSize_congr {first second : Memory Cell}
    (same : ∀ i, i < deviceSecInfoSize → first i = second i) (size : Nat) :
    (storeAttkbSize first size).read 0 trustyDeviceInfoSize =
      (storeAttkbSize second size).read 0 trustyDeviceInfoSize := by
  apply Memory.read_congr
  intro i _ inside
  rw [storeAttkbSize, storeAttkbSize]
  have start : attkbSizeField.start = deviceSecInfoSize := rfl
  have stop : attkbSizeField.start + attkbSizeField.size = trustyDeviceInfoSize :=
    rfl
  by_cases before : i < deviceSecInfoSize
  · rw [Memory.copy_apply_of_lt (by omega), Memory.copy_apply_of_lt (by omega)]
    exact same i before
  · rw [Memory.copy_apply_of_mem (by omega) (by omega),
      Memory.copy_apply_of_mem (by omega) (by omega)]

theorem storeAttkbSize_not_stale {devInfo : Memory Cell}
    (written : ∀ i, i < deviceSecInfoSize → (devInfo i).origin ≠ .stale)
    (size : Nat) :
    ∀ cell ∈ (storeAttkbSize devInfo size).read 0 trustyDeviceInfoSize,
      cell.origin ≠ .stale := by
  intro cell member
  obtain ⟨i, inside, rfl⟩ := Memory.mem_read.mp member
  rw [storeAttkbSize, Nat.zero_add]
  have start : attkbSizeField.start = deviceSecInfoSize := rfl
  have stop : attkbSizeField.start + attkbSizeField.size = trustyDeviceInfoSize :=
    rfl
  by_cases before : i < deviceSecInfoSize
  · rw [Memory.copy_apply_of_lt (by omega)]
    exact written i before
  · rw [Memory.copy_apply_of_mem (by omega) (by omega)]
    simp [valueCells]

/-- Wiping the key leaves `attkb_size` as it was. -/
theorem withheld_stale (permission : Permission)
    (secInfo contents : Memory (BitVec 8)) :
    (wipeField (preparedDevInfo permission secInfo contents) SecInfo.attkbEncKey
      attkbSizeField.start).origin = .stale := by
  have behind : deviceSecInfoSize ≤ attkbSizeField.start := Nat.le_refl _
  rw [wipeField_of_not_contains _ (by decide), preparedDevInfo_behind _ _ _ behind]
  rfl

/-- The copied part of the structure includes `attkb_size`. -/
theorem attkbSize_mem_read (devInfo : Memory Cell) :
    devInfo attkbSizeField.start ∈ devInfo.read 0 trustyDeviceInfoSize := by
  have inside : attkbSizeField.start < trustyDeviceInfoSize :=
    Nat.lt_add_of_pos_right (by decide)
  rw [Memory.mem_read]
  refine ⟨attkbSizeField.start, inside, ?_⟩
  rw [Nat.zero_add]

/-! ## What the call copies out -/

section Copies

variable {σ : Type u}

/-- Nothing copied out so far was a byte the allocator left in a block. -/
def NothingStale (kernel : Kernel σ) : Prop :=
  ∀ copy ∈ kernel.copies, ∀ cell ∈ copy.cells, cell.origin ≠ .stale

theorem nothingStale_snoc (kernel : Kernel σ) (defined : NothingStale kernel)
    {cells : List Cell} (written : ∀ cell ∈ cells, cell.origin ≠ .stale)
    (address copied : Nat) :
    NothingStale (kernel.copyOut address cells copied) :=
  forall_mem_snoc.mpr ⟨defined, written⟩

/-- A keybox that is copied out was stored in full. -/
theorem attkb_not_stale {contents : Memory (BitVec 8)} {size : Nat}
    {download : Download σ} (nonzero : size ≠ 0)
    (follows : Follows (staleBlock contents) (.ok size, download)) :
    ∀ cell ∈ download.block.read 0 size, cell.origin ≠ .stale := by
  have block : download.block = _ := follows.tracks.block_eq
  have length := (reading_of_returned follows nonzero).2
  rw [block, ← length, Memory.read_ofList]
  intro cell member
  rcases file_origin _ cell member with cse | kernel
  · rw [cse]
    simp
  · rw [kernel]
    simp

theorem AttkbRun.nothingStale {env : Env} {userAttkb : Nat} {kernel : Kernel σ}
    {run : Except Stop Nat × Kernel σ} (ran : AttkbRun env userAttkb kernel run)
    (defined : NothingStale kernel) : NothingStale run.2 := by
  cases ran with
  | null => exact defined
  | stopped follows => exact defined
  | failed follows => exact defined
  | faulted nonzero follows =>
      exact nothingStale_snoc kernel defined
        (attkb_not_stale nonzero follows) userAttkb 0
  | delivered nonzero follows =>
      exact nothingStale_snoc kernel defined
        (attkb_not_stale nonzero follows) userAttkb 0

theorem RetrieveRun.nothingStale {env : Env} {info : Nat} {kernel : Kernel σ}
    {run : Except Stop Nat × Kernel σ} (ran : RetrieveRun env info kernel run)
    (defined : NothingStale kernel) : NothingStale run.2 := by
  cases ran with
  | absent hw => exact defined
  | called ran => exact ran.nothingStale defined

variable (device : Device σ) (env : Env) (bound : Nat)

/-- Delivering the structure adds one copy, whether it faults or not. -/
theorem copies_deliverDevInfo (info : Nat) (devInfo : Memory Cell)
    (kernel : Kernel σ) :
    (deliverDevInfo env info devInfo kernel).2.copies =
      kernel.copies ++ [⟨info, devInfo.read 0 trustyDeviceInfoSize⟩] := by
  rw [deliverDevInfo_apply]
  split
  · rfl
  · rfl

/-- The environment with a given block for the structure. -/
def Env.withDevInfoBlock (contents : Memory (BitVec 8)) : Env :=
  { env with devInfoBlock := some contents }

/-- The call with a given block for the structure. -/
def sysGetDeviceInfoIn (contents : Memory (BitVec 8))
    (secInfo : Memory (BitVec 8)) (info : Nat) : Exec Stop (Kernel σ) Code :=
  sysGetDeviceInfo device (env.withDevInfoBlock contents) bound secInfo info

/-- What the call copies out does not depend on what the block of the structure
contained, and every byte of it was written by the call. -/
def CopiesDefined (secInfo : Memory (BitVec 8)) (info : Nat)
    (kernel : Kernel σ) : Prop :=
  (∀ contents contents',
    (sysGetDeviceInfoIn device env bound contents secInfo info kernel).2.copies =
      (sysGetDeviceInfoIn device env bound contents' secInfo info
        kernel).2.copies) ∧
  ∀ contents, NothingStale
    (sysGetDeviceInfoIn device env bound contents secInfo info kernel).2

theorem sysGetDeviceInfoIn_apply {secInfo : Memory (BitVec 8)}
    (expected : readU32 secInfo SecInfo.sizeOfThisStruct = deviceSecInfoSize)
    (permitted : getTaPermission env.uuid ≠ Permission.getNone)
    (contents : Memory (BitVec 8)) (info : Nat) (kernel : Kernel σ) :
    sysGetDeviceInfoIn device env bound contents secInfo info kernel =
      (provideAttkb device env bound (getTaPermission env.uuid) info
          (preparedDevInfo (getTaPermission env.uuid) secInfo contents) >>=
        deliverDevInfo env info) kernel.filled :=
  sysGetDeviceInfo_of_block device (env.withDevInfoBlock contents) bound expected
    permitted rfl info kernel

/-- The copies of a call that provides the keybox. -/
theorem copies_of_granted {secInfo : Memory (BitVec 8)}
    (expected : readU32 secInfo SecInfo.sizeOfThisStruct = deviceSecInfoSize)
    (permitted : getTaPermission env.uuid ≠ Permission.getNone)
    (granted : (getTaPermission env.uuid).Has Permission.getAttkb)
    (contents : Memory (BitVec 8)) (info : Nat) (kernel : Kernel σ) :
    (sysGetDeviceInfoIn device env bound contents secInfo info kernel).2.copies =
      match retrieveAttkb device env bound info kernel.filled with
      | (.error _, final) => final.copies
      | (.ok size, final) => final.copies ++ [⟨info,
          (storeAttkbSize (preparedDevInfo (getTaPermission env.uuid) secInfo
            contents) size).read 0 trustyDeviceInfoSize⟩] := by
  rw [sysGetDeviceInfoIn_apply device env bound expected permitted,
    provideAttkb_of_granted device env bound granted]
  rcases outcome : retrieveAttkb device env bound info kernel.filled with
    ⟨reason | size, final⟩
  · rw [Exec.bind_of_error (Exec.bind_of_error outcome)]
  · have stores : (retrieveAttkb device env bound info >>= fun attkbSize =>
        pure (storeAttkbSize (preparedDevInfo (getTaPermission env.uuid) secInfo
          contents) attkbSize)) kernel.filled =
        (.ok (storeAttkbSize (preparedDevInfo (getTaPermission env.uuid) secInfo
          contents) size), final) := Exec.bind_of_ok outcome
    rw [Exec.bind_of_ok stores]
    exact copies_deliverDevInfo env info _ final

/-- For an application that may get the keybox everything copied out was
written. -/
theorem copiesDefined_of_granted {secInfo : Memory (BitVec 8)}
    (expected : readU32 secInfo SecInfo.sizeOfThisStruct = deviceSecInfoSize)
    (permitted : getTaPermission env.uuid ≠ Permission.getNone)
    (granted : (getTaPermission env.uuid).Has Permission.getAttkb) (info : Nat)
    {kernel : Kernel σ} (defined : NothingStale kernel) :
    CopiesDefined device env bound secInfo info kernel := by
  have ran := retrieveAttkb_run device env bound info kernel.filled
  have copies := copies_of_granted device env bound expected permitted granted
  constructor
  · intro contents contents'
    rw [copies contents, copies contents']
    rcases retrieveAttkb device env bound info kernel.filled with
      ⟨reason | size, final⟩
    · rfl
    · have same := storeAttkbSize_congr (fun i inside => preparedDevInfo_congr
        (getTaPermission env.uuid) secInfo contents contents' inside) size
      simp only [same]
  · intro contents copy member
    rw [copies contents] at member
    have retrieved := ran.nothingStale defined
    rcases outcome : retrieveAttkb device env bound info kernel.filled with
      ⟨reason | size, final⟩
    · rw [outcome] at member retrieved
      exact retrieved copy member
    · rw [outcome] at member retrieved
      have written := storeAttkbSize_not_stale (fun i inside =>
        preparedDevInfo_not_stale (getTaPermission env.uuid) secInfo contents
          inside) size
      exact nothingStale_snoc final retrieved written info 0 copy member

/-- For an application that may not get the keybox, `attkb_size` is copied out as
it was. -/
theorem stale_of_denied {secInfo : Memory (BitVec 8)}
    (expected : readU32 secInfo SecInfo.sizeOfThisStruct = deviceSecInfoSize)
    (permitted : getTaPermission env.uuid ≠ Permission.getNone)
    (denied : ¬ (getTaPermission env.uuid).Has Permission.getAttkb)
    (contents : Memory (BitVec 8)) (info : Nat) (kernel : Kernel σ) :
    ¬ NothingStale
      (sysGetDeviceInfoIn device env bound contents secInfo info kernel).2 := by
  intro defined
  have withheld := provideAttkb_of_denied device env bound denied info
    (preparedDevInfo (getTaPermission env.uuid) secInfo contents) kernel.filled
  rw [sysGetDeviceInfoIn_apply device env bound expected permitted,
    Exec.bind_of_ok withheld, NothingStale, copies_deliverDevInfo] at defined
  have stale := withheld_stale (getTaPermission env.uuid) secInfo contents
  generalize wipeField (preparedDevInfo (getTaPermission env.uuid) secInfo
    contents) SecInfo.attkbEncKey = devInfo at stale defined
  have last := defined ⟨info, devInfo.read 0 trustyDeviceInfoSize⟩
    (List.mem_append_right _ (List.mem_singleton_self _))
  dsimp only at last
  exact last (devInfo attkbSizeField.start) (attkbSize_mem_read devInfo) stale

/-- A call that ends alike for all contents of the block, with nothing stale copied,
is defined. -/
theorem copiesDefined_of_run {secInfo : Memory (BitVec 8)} {info : Nat}
    {kernel : Kernel σ} {ended : Except Stop Code × Kernel σ}
    (run : ∀ contents,
      sysGetDeviceInfoIn device env bound contents secInfo info kernel = ended)
    (defined : NothingStale ended.2) :
    CopiesDefined device env bound secInfo info kernel := by
  constructor
  · intro contents contents'
    rw [run contents, run contents']
  · intro contents
    rw [run contents]
    exact defined

/-- The copied bytes are the call's own exactly when the call copies nothing, by
panic or for lack of permission, or the application may get the keybox. -/
theorem copiesDefined_iff (hw : Hw σ) (user secInfo : Memory (BitVec 8))
    (info : Nat) :
    CopiesDefined device env bound secInfo info (Kernel.start hw user) ↔
      readU32 secInfo SecInfo.sizeOfThisStruct ≠ deviceSecInfoSize ∨
        getTaPermission env.uuid = Permission.getNone ∨
        (getTaPermission env.uuid).Has Permission.getAttkb := by
  have nothing : NothingStale (Kernel.start hw user) := by
    intro copy member
    cases member
  by_cases expected : readU32 secInfo SecInfo.sizeOfThisStruct = deviceSecInfoSize
  · by_cases denied : getTaPermission env.uuid = Permission.getNone
    · refine iff_of_true ?_ (Or.inr (Or.inl denied))
      exact copiesDefined_of_run device env bound (fun contents =>
        sysGetDeviceInfo_of_denied device (env.withDevInfoBlock contents) bound expected
          denied info (Kernel.start hw user)) nothing
    · by_cases granted : (getTaPermission env.uuid).Has Permission.getAttkb
      · exact iff_of_true (copiesDefined_of_granted device env bound expected
          denied granted info nothing) (Or.inr (Or.inr granted))
      · refine iff_of_false ?_ ?_
        · intro defined
          exact stale_of_denied device env bound expected denied granted
            (fun _ => 0) info _ (defined.2 fun _ => 0)
        · rintro (differs | none | attkb)
          · exact differs expected
          · exact denied none
          · exact granted attkb
  · refine iff_of_true ?_ (Or.inl expected)
    exact copiesDefined_of_run device env bound (fun contents =>
      sysGetDeviceInfo_of_mismatch device (env.withDevInfoBlock contents) bound expected
        info (Kernel.start hw user)) nothing

end Copies

/-- The secure storage server gets `attkb_size` from the heap: two contents of the
block lead to two different bytes in its memory. -/
theorem secureStorage_gets_heap_bytes :
    ¬ CopiesDefined interruptedDevice (calmEnv secureStorageServerAppUuid) 0
        blankSecInfo 0 (Kernel.start ⟨Mailbox.empty, []⟩ fun _ => 0) ∧
      (sysGetDeviceInfoIn interruptedDevice (calmEnv secureStorageServerAppUuid) 0
        (fun _ => 0x00) blankSecInfo 0
        (Kernel.start ⟨Mailbox.empty, []⟩ fun _ => 0)).2.user 1816 ≠
      (sysGetDeviceInfoIn interruptedDevice (calmEnv secureStorageServerAppUuid) 0
        (fun _ => 0xFF) blankSecInfo 0
        (Kernel.start ⟨Mailbox.empty, []⟩ fun _ => 0)).2.user 1816 := by
  constructor
  · intro defined
    exact stale_of_denied interruptedDevice (calmEnv secureStorageServerAppUuid) 0
      (by decide) (by decide) (by decide) (fun _ => 0) 0 _ (defined.2 fun _ => 0)
  · decide +kernel

end SandPlatform.DeviceInfo
