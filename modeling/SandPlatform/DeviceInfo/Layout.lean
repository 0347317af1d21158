import SandPlatform.Foundation.Memory
import SandPlatform.Foundation.Tiling
import SandPlatform.Foundation.Word

/-!
# Layout of the device information

Offsets and sizes of the fields of `device_sec_info_t` and of
`trusty_device_info_t`.  The fields of the secure-info block tile it, so a
statement about every field is a statement about every byte.
-/

namespace SandPlatform.DeviceInfo

open SandPlatform.Foundation

/-- A member of a structure. -/
structure Field where
  start : Nat
  size : Nat
  deriving DecidableEq

namespace Field

/-- The offset of the first byte behind a member. -/
def stop (field : Field) : Nat := field.start + field.size

/-- An offset lies in the member. -/
def Contains (field : Field) (i : Nat) : Prop :=
  field.start ≤ i ∧ i < field.start + field.size

instance (field : Field) (i : Nat) : Decidable (field.Contains i) :=
  inferInstanceAs (Decidable (_ ∧ _))

/-- The next member of the given size. -/
def next (field : Field) (size : Nat) : Field :=
  ⟨field.stop, size⟩

end Field

/-- `CSE_SEED_MAX_ENTRIES`, the length of both lists of seeds. -/
def cseSeedMaxEntries : Nat := 10

/-- `MMC_PROD_NAME_WITH_PSN_LEN`, the length of the serial number. -/
def mmcProdNameWithPsnLen : Nat := 15

/-- `RPMB_MAX_PARTITION_NUMBER`, the number of keys of 64 bytes. -/
def rpmbMaxPartitionNumber : Nat := 6

/-- `sizeof(seed_info_t)`. -/
def seedInfoSize : Nat := 1 + 1 + 2 + 64

/-! ## `device_sec_info_t` -/

namespace SecInfo

/-- The size of the record, its first member. -/
def sizeOfThisStruct : Field := ⟨0, 4⟩

/-- The version of the record. -/
def version : Field := sizeOfThisStruct.next 4

/-- The platform, as the boot loader numbers them. -/
def platform : Field := version.next 4

/-- The manufacturing state, secure boot and test seeds, a bit each. -/
def flags : Field := platform.next 4

/-- The padding in front of the seeds. -/
def pad1 : Field := flags.next 4

/-- How many of the seeds are given. -/
def numSeeds : Field := pad1.next 4

/-- The user seeds. -/
def useedList : Field := numSeeds.next (cseSeedMaxEntries * seedInfoSize)

/-- The device seeds. -/
def dseedList : Field := useedList.next (cseSeedMaxEntries * seedInfoSize)

/-- The keys of the replay-protected partitions. -/
def rpmbKey : Field := dseedList.next (rpmbMaxPartitionNumber * 64)

/-- The key under which the keybox is encrypted. -/
def attkbEncKey : Field := rpmbKey.next 32

/-- The serial number of the storage. -/
def serial : Field := attkbEncKey.next mmcProdNameWithPsnLen

/-- The last byte of the record. -/
def pad2 : Field := serial.next 1

/-- All members in declaration order. -/
def fields : List Field :=
  [sizeOfThisStruct, version, platform, flags, pad1, numSeeds, useedList,
    dseedList, rpmbKey, attkbEncKey, serial, pad2]

end SecInfo

/-- `sizeof(device_sec_info_t)`. -/
def deviceSecInfoSize : Nat := SecInfo.pad2.stop

/-- `attkb_size` of `trusty_device_info_t`, behind the secure-info block. -/
def attkbSizeField : Field := SecInfo.pad2.next 4

/-- `sizeof(trusty_device_info_t)`. -/
def trustyDeviceInfoSize : Nat := attkbSizeField.stop

theorem fields_tile :
    Tiles 0 (SecInfo.fields.map fun field => (field.start, field.size))
      deviceSecInfoSize := by
  simp only [SecInfo.fields, List.map, Tiles]
  decide

/-- Every byte of the secure-info block belongs to a member. -/
theorem exists_field {i : Nat} (inside : i < deviceSecInfoSize) :
    ∃ field ∈ SecInfo.fields, field.Contains i := by
  rcases fields_tile.exists_mem (Nat.zero_le i) inside with
    ⟨range, member, bounds⟩
  obtain ⟨field, fieldMember, rfl⟩ := List.mem_map.mp member
  exact ⟨field, fieldMember, bounds⟩

/-! ## Reading members -/

/-- A `uint32_t` member. -/
def readU32 (memory : Memory (BitVec 8)) (field : Field) : Nat :=
  (Word.ofBytes (memory field.start) (memory (field.start + 1))
    (memory (field.start + 2)) (memory (field.start + 3))).toNat

/-- A block that announces the expected size and is clear otherwise. -/
def blankSecInfo : Memory (BitVec 8)
  | 0 => 0x18
  | 1 => 0x07
  | _ => 0

end SandPlatform.DeviceInfo
