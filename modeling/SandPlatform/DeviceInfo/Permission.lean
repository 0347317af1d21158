import SandPlatform.DeviceInfo.Layout

/-!
# Which application may see what

The permission matrix of the system call, and the members of the secure-info
block that a set of permissions entitles an application to.
-/

namespace SandPlatform.DeviceInfo

open SandPlatform.Foundation

/-- `uuid_t`. -/
structure Uuid where
  timeLow : BitVec 32
  timeMid : BitVec 16
  timeHiAndVersion : BitVec 16
  clockSeqAndNode : Vector (BitVec 8) 8
  deriving DecidableEq

/-- `HWCRYPTO_SRV_APP_UUID`. -/
def hwcryptoSrvAppUuid : Uuid :=
  ⟨0x23fe5938, 0xccd5, 0x4a78,
    #v[0x8b, 0xaf, 0x0f, 0x3d, 0x05, 0xff, 0xc2, 0xdf]⟩

/-- `KEYMASTER_SRV_APP_UUID`. -/
def keymasterSrvAppUuid : Uuid :=
  ⟨0x5f902ace, 0x5e5c, 0x4cd8,
    #v[0xae, 0x54, 0x87, 0xb8, 0x8c, 0x22, 0xdd, 0xaf]⟩

/-- `SECURE_STORAGE_SERVER_APP_UUID`. -/
def secureStorageServerAppUuid : Uuid :=
  ⟨0xcea8706d, 0x6cb4, 0x49f3,
    #v[0xb9, 0x94, 0x29, 0xe0, 0xe4, 0x78, 0xbd, 0x29]⟩

/-! ## Permissions -/

/-- A set of permission bits. -/
abbrev Permission : Type := BitVec 32

namespace Permission

/-- `GET_NONE`: the call is refused. -/
def getNone : Permission := 0

/-- `GET_BASIC_INFO`: the members that are no secret. -/
def getBasicInfo : Permission := 1 <<< 0

/-- `GET_SEED`: the user and device seeds too. -/
def getSeed : Permission := 1 <<< 1

/-- `GET_ATTKB`: the keybox, and the key that encrypts it. -/
def getAttkb : Permission := 1 <<< 2

/-- `GET_RPMB_KEY`: the keys of the replay-protected partitions. -/
def getRpmbKey : Permission := 1 <<< 3

/-- One of the bits of `flag` is set. -/
def Has (permission flag : Permission) : Prop :=
  permission &&& flag ≠ 0

instance (permission flag : Permission) : Decidable (permission.Has flag) :=
  inferInstanceAs (Decidable (_ ≠ _))

end Permission

/-- An entry of the matrix: an application and what it may get. -/
structure TaPermission where
  uuid : Uuid
  permission : Permission

/-- `ta_permission_matrix`, all applications that may get anything. -/
def taPermissionMatrix : List TaPermission :=
  [⟨hwcryptoSrvAppUuid, Permission.getSeed ||| Permission.getRpmbKey⟩,
    ⟨keymasterSrvAppUuid, Permission.getAttkb⟩,
    ⟨secureStorageServerAppUuid, Permission.getBasicInfo⟩]

/-- The first matching entry of the matrix decides. -/
def getTaPermission (uuid : Uuid) : Permission :=
  match taPermissionMatrix.find? fun entry => uuid = entry.uuid with
  | some entry => entry.permission
  | none => Permission.getNone

/-- The application has an entry in the matrix. -/
def InMatrix (uuid : Uuid) : Prop :=
  ∃ entry ∈ taPermissionMatrix, uuid = entry.uuid

instance (uuid : Uuid) : Decidable (InMatrix uuid) :=
  inferInstanceAs (Decidable (∃ entry ∈ taPermissionMatrix, uuid = entry.uuid))

theorem permission_ne_none {entry : TaPermission}
    (member : entry ∈ taPermissionMatrix) :
    entry.permission ≠ Permission.getNone := by
  have all : ∀ entry ∈ taPermissionMatrix,
      entry.permission ≠ Permission.getNone := by decide
  exact all entry member

/-- Every entry of the matrix grants something, so exactly the applications
outside it have no permission. -/
theorem getTaPermission_eq_none_iff (uuid : Uuid) :
    getTaPermission uuid = Permission.getNone ↔ ¬ InMatrix uuid := by
  rw [getTaPermission]
  cases found : taPermissionMatrix.find? fun entry => uuid = entry.uuid with
  | none =>
      constructor
      · rintro _ ⟨entry, member, same⟩
        have unmatched := List.find?_eq_none.mp found entry member
        exact unmatched (decide_eq_true same)
      · intro _
        rfl
  | some entry =>
      have member := List.mem_of_find?_eq_some found
      have matched : uuid = entry.uuid := by
        simpa using List.find?_some found
      constructor
      · intro none
        exact absurd none (permission_ne_none member)
      · intro outside
        exact absurd ⟨entry, member, matched⟩ outside

/-! ## Entitlement -/

/-- An application with the given permissions is entitled to a member of the
secure-info block: it has some permission, and a secret member has its own. -/
structure Entitled (permission : Permission) (field : Field) : Prop where
  permitted : permission ≠ Permission.getNone
  seed : field = SecInfo.useedList ∨ field = SecInfo.dseedList →
    permission.Has Permission.getSeed
  rpmb : field = SecInfo.rpmbKey → permission.Has Permission.getRpmbKey
  attkb : field = SecInfo.attkbEncKey → permission.Has Permission.getAttkb

/-- Two secure-info blocks agree on every member an application is entitled
to. -/
def AgreeOnEntitled (permission : Permission) (first second : Memory (BitVec 8)) :
    Prop :=
  ∀ field ∈ SecInfo.fields, Entitled permission field →
    ∀ i, field.Contains i → first i = second i

/-- What an application is not entitled to is a secret it lacks the permission
for. -/
theorem secret_of_not_entitled {permission : Permission} {field : Field}
    (permitted : permission ≠ Permission.getNone)
    (hidden : ¬ Entitled permission field) :
    (¬ permission.Has Permission.getSeed ∧
        (field = SecInfo.useedList ∨ field = SecInfo.dseedList)) ∨
      (¬ permission.Has Permission.getRpmbKey ∧ field = SecInfo.rpmbKey) ∨
      (¬ permission.Has Permission.getAttkb ∧ field = SecInfo.attkbEncKey) := by
  by_contra none
  rw [not_or, not_or, not_and, not_and, not_and] at none
  rcases none with ⟨seed, rpmb, attkb⟩
  apply hidden
  constructor
  · exact permitted
  · intro isSeed
    by_contra denied
    exact seed denied isSeed
  · intro isRpmb
    by_contra denied
    exact rpmb denied isRpmb
  · intro isAttkb
    by_contra denied
    exact attkb denied isAttkb

end SandPlatform.DeviceInfo
