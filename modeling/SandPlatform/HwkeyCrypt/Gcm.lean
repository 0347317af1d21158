import SandPlatform.Foundation.Exec
import SandPlatform.HwkeyCrypt.Evp

/-!
# Key encryption

`aes_256_gcm_encrypt` and `aes_256_gcm_decrypt`.  A `goto exit` is a stop with
the code that is returned; the exit path wipes the work buffer and gives it back.
-/

namespace SandPlatform.HwkeyCrypt

open SandPlatform.Foundation

/-- `AES_GCM_NO_ERROR`, `AES_GCM_ERR_GENERIC` and `AES_GCM_ERR_AUTH_FAILED`. -/
inductive GcmCode
  | noError
  | errGeneric
  | errAuthFailed
  deriving DecidableEq

/-- The library and the allocator. -/
structure Env where
  evp : Evp
  malloc : BitVec 64 → Option (Memory (BitVec 8))

/-- The context, the work buffer and what the caller gets. -/
structure Work where
  ctx : Ctx
  outBuf : Memory (BitVec 8)
  out : Memory (BitVec 8)
  outSize : BitVec 64

/-- What a call leaves: its code, the caller's buffer and size, and the work
buffer as it is given back. -/
structure Outcome where
  code : GcmCode
  out : Option (Memory (BitVec 8))
  outSize : Option (BitVec 64)
  freed : Option (Memory (BitVec 8))

/-- An `int` where a `size_t` is expected. -/
def sizeOfInt (value : BitVec 32) : BitVec 64 :=
  value.signExtend 64

/-- A `size_t` where an `int` is expected. -/
def intOfSize (value : BitVec 64) : BitVec 32 :=
  value.setWidth 32

namespace Work

/-- The cipher context is changed. -/
def setCtx (change : Ctx → Ctx) (work : Work) : Work :=
  { work with ctx := change work.ctx }

/-- Bytes put into the work buffer. -/
def putOut (bytes : List (BitVec 8)) (work : Work) : Work :=
  { work with outBuf := work.outBuf.copy 0 (bytesMemory bytes) 0 bytes.length }

/-- The buffer of the caller is replaced. -/
def setOut (out : Memory (BitVec 8)) (work : Work) : Work :=
  { work with out := out }

/-- `*out_size` is assigned. -/
def setOutSize (outSize : BitVec 64) (work : Work) : Work :=
  { work with outSize := outSize }

end Work

variable (env : Env)

/-- A call into the library, with the code for its failure. -/
def evpCall (call : EvpCall) (code : GcmCode) : Exec GcmCode Work Unit :=
  if env.evp.accepts call then
    pure ()
  else
    Exec.stop code

/-- `memcpy_s` from the work buffer to the caller's buffer. -/
def copyOut (start size : Nat) : Exec GcmCode Work Unit := do
  let work ← Exec.gets id
  let copied := Memory.memcpyS 0 work.out start size work.outBuf 0 size
  Exec.modify (Work.setOut copied.2)
  if copied.1 ≠ 0 then
    Exec.stop .errGeneric
  else
    pure ()

/-- Context, key, iv and iv length. -/
def setUp (key : GcmKey) (iv : Memory (BitVec 8)) (ivSize : BitVec 64) :
    Exec GcmCode Work Unit := do
  evpCall env .ctxNew .errGeneric
  Exec.modify (Work.setCtx fun _ => Ctx.new)
  evpCall env .init .errGeneric
  Exec.modify (Work.setCtx (Ctx.init key iv))
  evpCall env (.setIvlen (intOfSize ivSize)) .errGeneric
  Exec.modify (Work.setCtx (Ctx.setIvlen (intOfSize ivSize)))

/-- The associated data, if there are any. -/
def setAad (aad : Option (Memory (BitVec 8))) (aadSize : BitVec 64) :
    Exec GcmCode Work Unit :=
  match aad with
  | none => pure ()
  | some aad => do
      evpCall env (.aad (intOfSize aadSize)) .errGeneric
      Exec.modify (Work.setCtx (Ctx.updateAad (bytesAt aad (intOfSize aadSize))))

/-- Account for processed text and put out the result; returns `out_len`. -/
def process (text output : List (BitVec 8)) :
    Exec GcmCode Work (BitVec 32) := do
  Exec.modify (Work.setCtx (Ctx.update text))
  Exec.modify (Work.putOut output)
  pure (BitVec.ofNat 32 output.length)

/-- An update of the context that transforms `length` bytes into the work
buffer. -/
def evpUpdate (transformed : Evp → List (BitVec 8) → Ctx → List (BitVec 8))
    (input : Memory (BitVec 8)) (length : BitVec 32) :
    Exec GcmCode Work (BitVec 32) := do
  evpCall env (.update length) .errGeneric
  let ctx ← Exec.gets Work.ctx
  process (bytesAt input length) (transformed env.evp (bytesAt input length) ctx)

/-! ## Encryption -/

/-- `EVP_EncryptUpdate` into the work buffer. -/
def encryptUpdate (plain : Memory (BitVec 8)) (length : BitVec 32) :
    Exec GcmCode Work (BitVec 32) :=
  evpUpdate env Ctx.encrypted plain length

/-- `EVP_EncryptFinal_ex`: GCM has nothing left to put out. -/
def encryptFinal : Exec GcmCode Work (BitVec 32) := do
  evpCall env .encryptFinal .errGeneric
  pure 0

/-- The tag goes to the start of the work buffer. -/
def getTag : Exec GcmCode Work Unit := do
  evpCall env .getTag .errAuthFailed
  let ctx ← Exec.gets Work.ctx
  Exec.modify (Work.putOut (ctx.getTag env.evp).toList)

/-- Copy `out_len` bytes of ciphertext and the tag behind them to the caller. -/
def deliverCipher (outLen : BitVec 32) : Exec GcmCode Work Unit := do
  copyOut 0 (sizeOfInt outLen).toNat
  getTag env
  copyOut outLen.toInt.toNat sizeofGcmTag
  Exec.modify (Work.setOutSize (sizeOfInt (outLen + BitVec.ofNat 32 sizeofGcmTag)))

/-- The encryption between the allocation and the exit. -/
def encryptBody (key : GcmKey) (iv : Memory (BitVec 8)) (ivSize : BitVec 64)
    (aad : Option (Memory (BitVec 8))) (aadSize : BitVec 64)
    (plain : Memory (BitVec 8)) (plainSize : BitVec 64) :
    Exec GcmCode Work Unit := do
  setUp env key iv ivSize
  setAad env aad aadSize
  let outLen ← encryptUpdate env plain (intOfSize plainSize)
  let curLen ← encryptFinal env
  deliverCipher env (outLen + curLen)

/-! ## Decryption -/

/-- `EVP_DecryptUpdate` into the work buffer. -/
def decryptUpdate (cipher : Memory (BitVec 8)) (length : BitVec 32) :
    Exec GcmCode Work (BitVec 32) :=
  evpUpdate env Ctx.decrypted cipher length

/-- The tag bytes at an offset of a blob. -/
def tagAt (cipher : Memory (BitVec 8)) (start : Nat) : GcmTag :=
  Vector.ofFn fun i => cipher (start + i)

/-- `EVP_CTRL_GCM_SET_TAG`. -/
def setTag (tag : GcmTag) : Exec GcmCode Work Unit := do
  evpCall env .setTag .errGeneric
  Exec.modify (Work.setCtx (Ctx.setTag tag))

/-- `EVP_DecryptFinal_ex`. -/
def decryptFinal : Exec GcmCode Work Unit := do
  evpCall env .decryptFinal .errAuthFailed
  let ctx ← Exec.gets Work.ctx
  if ctx.tagMatches env.evp then
    pure ()
  else
    Exec.stop .errAuthFailed

/-- Decrypt `data_len` bytes, copy them to the caller and check the tag behind
them. -/
def decryptText (cipher : Memory (BitVec 8)) (dataLen : BitVec 32) :
    Exec GcmCode Work Unit := do
  let outLen ← decryptUpdate env cipher dataLen
  copyOut 0 (sizeOfInt outLen).toNat
  setTag env (tagAt cipher dataLen.toInt.toNat)
  decryptFinal env
  Exec.modify (Work.setOutSize (sizeOfInt outLen))

/-- The decryption between the allocation and the exit. -/
def decryptBody (key : GcmKey) (iv : Memory (BitVec 8)) (ivSize : BitVec 64)
    (aad : Option (Memory (BitVec 8))) (aadSize : BitVec 64)
    (cipher : Memory (BitVec 8)) (cipherSize : BitVec 64) :
    Exec GcmCode Work Unit := do
  setUp env key iv ivSize
  setAad env aad aadSize
  decryptText env cipher (intOfSize (cipherSize - BitVec.ofNat 64 sizeofGcmTag))

/-! ## The two functions -/

/-- The code of a body that reached the exit. -/
def exitCode : Except GcmCode Unit → GcmCode
  | .ok _ => .noError
  | .error code => code

/-- The exit path: wipe the work buffer and give it back. -/
def leave (size : BitVec 64) (ended : Except GcmCode Unit) (work : Work) :
    Outcome :=
  ⟨exitCode ended, some work.out, some work.outSize,
    some (work.outBuf.fill 0 size.toNat 0)⟩

/-- Allocate the work buffer, run a body and leave through the exit path. -/
def withWorkBuffer (size : BitVec 64) (body : Exec GcmCode Work Unit)
    (out : Memory (BitVec 8)) (outSize : BitVec 64) : Outcome :=
  match env.malloc size with
  | none => ⟨.errGeneric, some out, some outSize, none⟩
  | some outBuf =>
      leave size (body ⟨Ctx.new, outBuf, out, outSize⟩).1
        (body ⟨Ctx.new, outBuf, out, outSize⟩).2

/-- `aes_256_gcm_encrypt`; `none` is a null pointer. -/
def aes256GcmEncrypt (key : Option GcmKey) (iv : Option (Memory (BitVec 8)))
    (ivSize : BitVec 64) (aad : Option (Memory (BitVec 8))) (aadSize : BitVec 64)
    (plain : Option (Memory (BitVec 8))) (plainSize : BitVec 64)
    (out : Option (Memory (BitVec 8))) (outSize : Option (BitVec 64)) : Outcome :=
  match key, iv, plain, out, outSize with
  | some key, some iv, some plain, some out', some outSize' =>
      if ivSize = 0 then
        ⟨.errGeneric, out, outSize, none⟩
      else
        withWorkBuffer env (plainSize + BitVec.ofNat 64 sizeofGcmTag)
          (encryptBody env key iv ivSize aad aadSize plain plainSize) out' outSize'
  | _, _, _, _, _ => ⟨.errGeneric, out, outSize, none⟩

/-- `aes_256_gcm_decrypt`; `none` is a null pointer. -/
def aes256GcmDecrypt (key : Option GcmKey) (iv : Option (Memory (BitVec 8)))
    (ivSize : BitVec 64) (aad : Option (Memory (BitVec 8))) (aadSize : BitVec 64)
    (cipher : Option (Memory (BitVec 8))) (cipherSize : BitVec 64)
    (out : Option (Memory (BitVec 8))) (outSize : Option (BitVec 64)) : Outcome :=
  match key, iv, cipher, out, outSize with
  | some key, some iv, some cipher, some out', some outSize' =>
      if ivSize = 0 then
        ⟨.errGeneric, out, outSize, none⟩
      else
        withWorkBuffer env (cipherSize - BitVec.ofNat 64 sizeofGcmTag)
          (decryptBody env key iv ivSize aad aadSize cipher cipherSize) out'
          outSize'
  | _, _, _, _, _ => ⟨.errGeneric, out, outSize, none⟩

/-- Blocks of zeroes of any size. -/
def zeroMalloc (_ : BitVec 64) : Option (Memory (BitVec 8)) :=
  some fun _ => 0

end SandPlatform.HwkeyCrypt
