import SandPlatform.Foundation.Aead
import SandPlatform.Foundation.Memory

/-!
# The cipher library

The part of the EVP interface that the key encryption uses, for AES-256-GCM.
Which calls succeed is a parameter, and so are the cipher and the tag.  A context
takes its nonce when it is initialised with an iv, from as many bytes as its iv
length is at that moment; changing the iv length later has no effect on it.
-/

namespace SandPlatform.HwkeyCrypt

open SandPlatform.Foundation

/-- `struct gcm_key`. -/
abbrev GcmKey : Type :=
  Vector (BitVec 8) 32

/-- `struct gcm_tag`. -/
abbrev GcmTag : Type :=
  Vector (BitVec 8) 16

/-- `sizeof(struct gcm_tag)`. -/
def sizeofGcmTag : Nat := 16

/-- The iv length of a new GCM context. -/
def defaultIvLength : Nat := 12

/-- A call into the library, with the length it is given. -/
inductive EvpCall
  | ctxNew
  | init
  | setIvlen (length : BitVec 32)
  | aad (length : BitVec 32)
  | update (length : BitVec 32)
  | encryptFinal
  | decryptFinal
  | getTag
  | setTag
  deriving DecidableEq

/-- The library: AES-256-GCM, and which calls succeed.  Lengths are ints, and a
negative one is for `accepts` to refuse. -/
structure Evp where
  gcm : Aead GcmKey (List (BitVec 8)) GcmTag (BitVec 8)
  accepts : EvpCall → Bool

/-- A cipher context. -/
structure Ctx where
  key : GcmKey
  nonce : List (BitVec 8)
  ivLength : Nat
  aad : List (BitVec 8)
  /-- The text passed to `EVP_EncryptUpdate` or `EVP_DecryptUpdate` so far. -/
  text : List (BitVec 8)
  /-- The tag to be checked. -/
  tag : Option GcmTag

/-- The first `length` bytes at a pointer. -/
def bytesAt (memory : Memory (BitVec 8)) (length : BitVec 32) :
    List (BitVec 8) :=
  memory.read 0 length.toInt.toNat

/-- Memory that starts with the given bytes. -/
def bytesMemory (bytes : List (BitVec 8)) : Memory (BitVec 8) :=
  Memory.ofList bytes fun _ => 0

namespace Ctx

/-- `EVP_CIPHER_CTX_new`. -/
def new : Ctx :=
  ⟨Vector.replicate 32 0, [], defaultIvLength, [], [], none⟩

/-- `EVP_EncryptInit_ex` and `EVP_DecryptInit_ex` with a key and an iv. -/
def init (key : GcmKey) (iv : Memory (BitVec 8)) (ctx : Ctx) : Ctx :=
  { ctx with key := key, nonce := iv.read 0 ctx.ivLength }

/-- `EVP_CTRL_GCM_SET_IVLEN`. -/
def setIvlen (length : BitVec 32) (ctx : Ctx) : Ctx :=
  { ctx with ivLength := length.toInt.toNat }

/-- An update without an output buffer. -/
def updateAad (bytes : List (BitVec 8)) (ctx : Ctx) : Ctx :=
  { ctx with aad := ctx.aad ++ bytes }

/-- More text is processed. -/
def update (bytes : List (BitVec 8)) (ctx : Ctx) : Ctx :=
  { ctx with text := ctx.text ++ bytes }

/-- What encrypting some more bytes puts out. -/
def encrypted (evp : Evp) (bytes : List (BitVec 8)) (ctx : Ctx) :
    List (BitVec 8) :=
  (evp.gcm.encrypt ctx.key ctx.nonce (ctx.text ++ bytes)).drop ctx.text.length

/-- What decrypting some more bytes puts out. -/
def decrypted (evp : Evp) (bytes : List (BitVec 8)) (ctx : Ctx) :
    List (BitVec 8) :=
  (evp.gcm.decrypt ctx.key ctx.nonce (ctx.text ++ bytes)).drop ctx.text.length

/-- `EVP_CTRL_GCM_GET_TAG` of an encryption. -/
def getTag (evp : Evp) (ctx : Ctx) : GcmTag :=
  evp.gcm.authenticate ctx.key ctx.nonce ctx.aad
    (evp.gcm.encrypt ctx.key ctx.nonce ctx.text)

/-- `EVP_CTRL_GCM_SET_TAG`. -/
def setTag (tag : GcmTag) (ctx : Ctx) : Ctx :=
  { ctx with tag := some tag }

/-- The check of `EVP_DecryptFinal_ex`. -/
def tagMatches (evp : Evp) (ctx : Ctx) : Bool :=
  ctx.tag == some (evp.gcm.authenticate ctx.key ctx.nonce ctx.aad ctx.text)

end Ctx

/-! ## A library for examples -/

/-- The tag of AES-256-GCM on its published vector of one zero block under the zero
key and the zero iv. -/
def zeroBlockTag : GcmTag :=
  #v[0xd0, 0xd1, 0xc8, 0xa7, 0x99, 0x99, 0x6b, 0xf0,
    0x26, 0x5b, 0x98, 0xb5, 0xd4, 0x8a, 0xb9, 0x19]

/-- AES-256-GCM on that vector: the key stream and the tag. -/
def zeroBlockEvp : Evp where
  gcm := Aead.ofKeystream
    (fun _ _ i => [0xce, 0xa7, 0x40, 0x3d, 0x4d, 0x60, 0x6b, 0x6e,
      0x07, 0x4e, 0xc5, 0xd3, 0xba, 0xf3, 0x9d, 0x18].getD i 0)
    (fun _ _ _ _ => zeroBlockTag)
  accepts _ := true

end SandPlatform.HwkeyCrypt
