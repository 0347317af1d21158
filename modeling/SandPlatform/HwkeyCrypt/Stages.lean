import SandPlatform.HwkeyCrypt.Gcm

/-!
# The stages of a call

Encryption and decryption begin alike: context, key, iv, associated data, and one
update into the work buffer.  Either the library refuses one of these calls, and
the caller's buffer is as it was, or the work buffer holds the transformed text.
-/

namespace SandPlatform.HwkeyCrypt

open SandPlatform.Foundation

/-! ## Integer conversions -/

theorem toInt_intOfSize {size : BitVec 64} (small : size.toNat < 2 ^ 31) :
    (intOfSize size).toInt.toNat = size.toNat := by
  have same : (intOfSize size).toNat = size.toNat := by
    rw [intOfSize, BitVec.toNat_setWidth, Nat.mod_eq_of_lt (by omega)]
  rw [BitVec.toInt_eq_toNat_of_lt (by omega), same, Int.toNat_natCast]

theorem sizeOfInt_intOfSize {size : BitVec 64} (small : size.toNat < 2 ^ 31) :
    sizeOfInt (intOfSize size) = size := by
  have same : (intOfSize size).toNat = size.toNat := by
    rw [intOfSize, BitVec.toNat_setWidth, Nat.mod_eq_of_lt (by omega)]
  have positive : (intOfSize size).msb = false := by
    rw [BitVec.msb_eq_false_iff_two_mul_lt]
    omega
  apply BitVec.eq_of_toNat_eq
  rw [sizeOfInt, BitVec.signExtend_eq_setWidth_of_msb_false positive,
    BitVec.toNat_setWidth, same, Nat.mod_eq_of_lt size.isLt]

theorem toNat_sizeOfInt_ofNat {size : Nat} (small : size < 2 ^ 31) :
    (sizeOfInt (BitVec.ofNat 32 size)).toNat = size := by
  have value : (BitVec.ofNat 64 size).toNat = size := by
    rw [BitVec.toNat_ofNat, Nat.mod_eq_of_lt (by omega)]
  have narrowed : BitVec.ofNat 32 size = intOfSize (BitVec.ofNat 64 size) := by
    rw [intOfSize, BitVec.setWidth_ofNat_of_le (by decide)]
  rw [narrowed, sizeOfInt_intOfSize (by omega), value]

theorem toInt_toNat_lt (value : BitVec 32) : value.toInt.toNat < 2 ^ 31 := by
  have bound := BitVec.two_mul_toInt_lt (x := value)
  omega

theorem intOfSize_add (first second : BitVec 64) :
    intOfSize (first + second) = intOfSize first + intOfSize second :=
  BitVec.setWidth_add _ _ (by decide)

theorem ofNat_length {size : BitVec 64} {bytes : List (BitVec 8)}
    (length : bytes.length = size.toNat) :
    BitVec.ofNat 32 bytes.length = intOfSize size := by
  rw [length, intOfSize, BitVec.ofNat_toNat]

theorem bytesAt_intOfSize (memory : Memory (BitVec 8)) {size : BitVec 64}
    (small : size.toNat < 2 ^ 31) :
    bytesAt memory (intOfSize size) = memory.read 0 size.toNat := by
  rw [bytesAt, toInt_intOfSize small]

/-! ## The common beginning -/

/-- The nonce that an iv gives. -/
def nonceOf (iv : Memory (BitVec 8)) : List (BitVec 8) :=
  iv.read 0 defaultIvLength

/-- The associated data of a call. -/
def aadBytes (aad : Option (Memory (BitVec 8))) (aadSize : BitVec 64) :
    List (BitVec 8) :=
  match aad with
  | none => []
  | some aad => bytesAt aad (intOfSize aadSize)

/-- The context once key, iv and associated data are set. -/
def keyedCtx (key : GcmKey) (iv : Memory (BitVec 8)) (ivSize : BitVec 64)
    (aad : Option (Memory (BitVec 8))) (aadSize : BitVec 64) : Ctx :=
  ⟨key, nonceOf iv, (intOfSize ivSize).toInt.toNat, aadBytes aad aadSize, [], none⟩

variable (env : Env)

/-- The library accepts the calls that set key, iv and iv length. -/
structure Keyed (ivSize : BitVec 64) : Prop where
  ctxNew : env.evp.accepts .ctxNew = true
  init : env.evp.accepts .init = true
  setIvlen : env.evp.accepts (.setIvlen (intOfSize ivSize)) = true

/-- The library accepts the associated data, if there is any. -/
def AadAccepted (aad : Option (Memory (BitVec 8))) (aadSize : BitVec 64) : Prop :=
  ∀ bytes, aad = some bytes → env.evp.accepts (.aad (intOfSize aadSize)) = true

/-- The library accepts the calls up to the update by a text of some length. -/
structure Prepared (ivSize : BitVec 64) (aad : Option (Memory (BitVec 8)))
    (aadSize : BitVec 64) (length : BitVec 32) : Prop where
  keyed : Keyed env ivSize
  aad : AadAccepted env aad aadSize
  update : env.evp.accepts (.update length) = true

/-- Context, key, iv, associated data, and the update of `length` bytes. -/
def prepare (transformed : Evp → List (BitVec 8) → Ctx → List (BitVec 8))
    (key : GcmKey) (iv : Memory (BitVec 8)) (ivSize : BitVec 64)
    (aad : Option (Memory (BitVec 8))) (aadSize : BitVec 64)
    (input : Memory (BitVec 8)) (length : BitVec 32) :
    Exec GcmCode Work (BitVec 32) := do
  setUp env key iv ivSize
  setAad env aad aadSize
  evpUpdate env transformed input length

/-- The work with the processed text on record and the result in the work
buffer. -/
def loadedWork (ctx : Ctx) (text output : List (BitVec 8)) (work : Work) : Work :=
  ((work.setCtx fun _ => ctx).setCtx (Ctx.update text)).putOut output

variable {env} {key : GcmKey} {iv : Memory (BitVec 8)} {ivSize : BitVec 64}
variable {aad : Option (Memory (BitVec 8))} {aadSize : BitVec 64}
variable {length : BitVec 32}

theorem evpCall_of_accepts {call : EvpCall} (accepted : env.evp.accepts call = true)
    (code : GcmCode) (work : Work) : evpCall env call code work = (.ok (), work) := by
  rw [evpCall, if_pos accepted]
  rfl

theorem evpCall_of_refuses {call : EvpCall} (refused : ¬ env.evp.accepts call = true)
    (code : GcmCode) (work : Work) : evpCall env call code work = (.error code, work) := by
  rw [evpCall, if_neg refused]
  rfl

/-- `memcpy_s` with the same two sizes copies. -/
theorem copyOut_run (start size : Nat) (work : Work) :
    copyOut start size work =
      (.ok (), work.setOut (work.out.copy start work.outBuf 0 size)) := by
  rw [copyOut, Exec.gets_bind_apply, id, Memory.memcpyS_self]
  rfl

theorem read_putOut (work : Work) (bytes : List (BitVec 8)) :
    (work.putOut bytes).outBuf.read 0 bytes.length = bytes := by
  rw [Work.putOut, Memory.read_copy]
  exact Memory.read_ofList

/-- The tag at an offset is the bytes there. -/
theorem toList_tagAt (memory : Memory (BitVec 8)) (start : Nat) :
    (tagAt memory start).toList = memory.read start sizeofGcmTag := by
  rw [tagAt, Vector.toList_ofFn]
  refine List.ext_getElem ?_ ?_
  · rw [List.length_ofFn, Memory.length_read, sizeofGcmTag]
  · intro i inside inside'
    rw [List.getElem_ofFn, Memory.getElem_read]

theorem setUp_run (keyed : Keyed env ivSize) (work : Work) :
    setUp env key iv ivSize work =
      (.ok (), work.setCtx fun _ => keyedCtx key iv ivSize none 0) := by
  rw [setUp, Exec.bind_of_ok (evpCall_of_accepts keyed.ctxNew _ _),
    Exec.modify_bind_apply,
    Exec.bind_of_ok (evpCall_of_accepts keyed.init _ _),
    Exec.modify_bind_apply,
    Exec.bind_of_ok (evpCall_of_accepts keyed.setIvlen _ _)]
  rfl

theorem setAad_run (accepted : AadAccepted env aad aadSize) (work : Work) :
    setAad env aad aadSize (work.setCtx fun _ => keyedCtx key iv ivSize none 0) =
      (.ok (), work.setCtx fun _ => keyedCtx key iv ivSize aad aadSize) := by
  cases aad with
  | none => rfl
  | some aad =>
      rw [setAad, Exec.bind_of_ok (evpCall_of_accepts (accepted aad rfl) _ _)]
      rfl

variable {transformed : Evp → List (BitVec 8) → Ctx → List (BitVec 8)}

/-- With all calls accepted, the work buffer holds the transformed text. -/
theorem prepare_run (prepared : Prepared env ivSize aad aadSize length)
    (input : Memory (BitVec 8)) (work : Work) {output : List (BitVec 8)}
    (transforms : transformed env.evp (bytesAt input length)
      (keyedCtx key iv ivSize aad aadSize) = output) :
    prepare env transformed key iv ivSize aad aadSize input length work =
      (.ok (BitVec.ofNat 32 output.length),
        loadedWork (keyedCtx key iv ivSize aad aadSize) (bytesAt input length)
          output work) := by
  rw [prepare, Exec.bind_of_ok (setUp_run prepared.keyed work),
    Exec.bind_of_ok (setAad_run prepared.aad work), evpUpdate,
    Exec.bind_of_ok (evpCall_of_accepts prepared.update _ _),
    Exec.gets_bind_apply, ← transforms]
  rfl

/-- The caller's buffer and size. -/
def Work.Untouched (out : Memory (BitVec 8)) (outSize : BitVec 64) (work : Work) :
    Prop :=
  work.out = out ∧ work.outSize = outSize

theorem evpCall_untouched (call : EvpCall) (code : GcmCode) (out : Memory (BitVec 8))
    (outSize : BitVec 64) :
    Exec.Preserves (Work.Untouched out outSize) (evpCall env call code) := by
  apply Exec.preserves_ite
  · exact Exec.preserves_pure _ _
  · exact Exec.preserves_stop _ _

/-- Nothing reaches the caller before the update. -/
theorem prepare_untouched (input : Memory (BitVec 8)) (out : Memory (BitVec 8))
    (outSize : BitVec 64) :
    Exec.Preserves (Work.Untouched out outSize)
      (prepare env transformed key iv ivSize aad aadSize input length) := by
  have ctxOnly (change : Ctx → Ctx) : Exec.Preserves (Work.Untouched out outSize)
      (Exec.modify (Work.setCtx change) : Exec GcmCode Work Unit) :=
    Exec.preserves_modify fun _ same => same
  have keyed : Exec.Preserves (Work.Untouched out outSize) (setUp env key iv ivSize) := by
    refine Exec.preserves_bind (evpCall_untouched _ _ _ _) fun _ => ?_
    refine Exec.preserves_bind (ctxOnly _) fun _ => ?_
    refine Exec.preserves_bind (evpCall_untouched _ _ _ _) fun _ => ?_
    refine Exec.preserves_bind (ctxOnly _) fun _ => ?_
    exact Exec.preserves_bind (evpCall_untouched _ _ _ _) fun _ => ctxOnly _
  have associated : Exec.Preserves (Work.Untouched out outSize)
      (setAad env aad aadSize) := by
    cases aad with
    | none => exact Exec.preserves_pure _ _
    | some aad =>
        exact Exec.preserves_bind (evpCall_untouched _ _ _ _) fun _ => ctxOnly _
  refine Exec.preserves_bind keyed fun _ => ?_
  refine Exec.preserves_bind associated fun _ => ?_
  refine Exec.preserves_bind (evpCall_untouched _ _ _ _) fun _ => ?_
  refine Exec.preserves_bind (Exec.preserves_gets _ _) fun ctx => ?_
  refine Exec.preserves_bind (ctxOnly _) fun _ => ?_
  refine Exec.preserves_bind (Exec.preserves_modify fun _ same => same) fun _ => ?_
  exact Exec.preserves_pure _ _

theorem evpCall_bind_apply {α : Type} (call : EvpCall) (code : GcmCode)
    (rest : Unit → Exec GcmCode Work α) (work : Work) :
    (evpCall env call code >>= rest) work =
      if env.evp.accepts call = true then rest () work else (.error code, work) := by
  by_cases accepted : env.evp.accepts call = true
  · rw [if_pos accepted, Exec.bind_of_ok (evpCall_of_accepts accepted code work)]
  · rw [if_neg accepted, Exec.bind_of_error (evpCall_of_refuses accepted code work)]

theorem setUp_refused (refused : ¬ Keyed env ivSize) (work : Work) :
    ∃ final, setUp env key iv ivSize work = (.error .errGeneric, final) := by
  rw [setUp, evpCall_bind_apply]
  split
  · rename_i ctxNew
    rw [Exec.modify_bind_apply, evpCall_bind_apply]
    split
    · rename_i init
      rw [Exec.modify_bind_apply, evpCall_bind_apply, if_neg fun setIvlen =>
        refused ⟨ctxNew, init, setIvlen⟩]
      exact ⟨_, rfl⟩
    · exact ⟨_, rfl⟩
  · exact ⟨_, rfl⟩

theorem setAad_refused (refused : ¬ AadAccepted env aad aadSize) (work : Work) :
    setAad env aad aadSize work = (.error .errGeneric, work) := by
  cases aad with
  | none =>
      refine absurd ?_ refused
      intro bytes some
      cases some
  | some aad =>
      have call : ¬ env.evp.accepts (.aad (intOfSize aadSize)) = true :=
        fun accepted => refused fun _ _ => accepted
      rw [setAad, evpCall_bind_apply, if_neg call]

/-- A refused call ends the common beginning with the general error. -/
theorem prepare_stops (refused : ¬ Prepared env ivSize aad aadSize length)
    (input : Memory (BitVec 8)) (work : Work) :
    ∃ final, prepare env transformed key iv ivSize aad aadSize input length work =
      (.error .errGeneric, final) := by
  by_cases keyed : Keyed env ivSize
  · rw [prepare, Exec.bind_of_ok (setUp_run keyed work)]
    by_cases associated : AadAccepted env aad aadSize
    · have update : ¬ env.evp.accepts (.update length) = true :=
        fun accepted => refused ⟨keyed, associated, accepted⟩
      rw [Exec.bind_of_ok (setAad_run associated work), evpUpdate,
        evpCall_bind_apply, if_neg update]
      exact ⟨_, rfl⟩
    · exact ⟨_, Exec.bind_of_error (setAad_refused associated _)⟩
  · obtain ⟨final, stopped⟩ := setUp_refused keyed work
    exact ⟨final, Exec.bind_of_error stopped⟩

/-- It ends there with the caller's buffer as it was. -/
theorem prepare_refused (refused : ¬ Prepared env ivSize aad aadSize length)
    (input : Memory (BitVec 8)) (work : Work) :
    ∃ final, Work.Untouched work.out work.outSize final ∧
      prepare env transformed key iv ivSize aad aadSize input length work =
        (.error .errGeneric, final) := by
  have stops : ∃ final, prepare env transformed key iv ivSize aad aadSize input length
      work = (.error .errGeneric, final) := prepare_stops refused input work
  have untouched : Work.Untouched work.out work.outSize
      (prepare env transformed key iv ivSize aad aadSize input length work).2 :=
    prepare_untouched input work.out work.outSize work ⟨rfl, rfl⟩
  obtain ⟨final, stopped⟩ := stops
  rw [stopped] at untouched
  exact ⟨final, untouched, stopped⟩

/-! ## Bodies as continuations of the common beginning -/

theorem encryptBody_eq (plain : Memory (BitVec 8)) (plainSize : BitVec 64) :
    encryptBody env key iv ivSize aad aadSize plain plainSize = (do
      let outLen ← prepare env Ctx.encrypted key iv ivSize aad aadSize plain
        (intOfSize plainSize)
      let curLen ← encryptFinal env
      deliverCipher env (outLen + curLen)) := by
  simp only [prepare, bind_assoc]
  rfl

/-- What is left of a decryption once the text is decrypted. -/
def finishDecryption (env : Env) (cipher : Memory (BitVec 8)) (dataLen : BitVec 32)
    (outLen : BitVec 32) : Exec GcmCode Work Unit := do
  copyOut 0 (sizeOfInt outLen).toNat
  setTag env (tagAt cipher dataLen.toInt.toNat)
  decryptFinal env
  Exec.modify (Work.setOutSize (sizeOfInt outLen))

theorem decryptBody_eq (cipher : Memory (BitVec 8)) (cipherSize : BitVec 64) :
    decryptBody env key iv ivSize aad aadSize cipher cipherSize = (do
      let outLen ← prepare env Ctx.decrypted key iv ivSize aad aadSize cipher
        (intOfSize (cipherSize - BitVec.ofNat 64 sizeofGcmTag))
      finishDecryption env cipher
        (intOfSize (cipherSize - BitVec.ofNat 64 sizeofGcmTag)) outLen) := by
  simp only [prepare, bind_assoc]
  rfl

theorem length_bytesAt (memory : Memory (BitVec 8)) (length : BitVec 32) :
    (bytesAt memory length).length = length.toInt.toNat :=
  Memory.length_read _ _ _

/-! ## Calls -/

/-- The arguments of a call besides the key.  The input is the text to encrypt or
the blob to decrypt. -/
structure GcmCall where
  iv : Option (Memory (BitVec 8))
  ivSize : BitVec 64
  aad : Option (Memory (BitVec 8))
  aadSize : BitVec 64
  input : Option (Memory (BitVec 8))
  inputSize : BitVec 64
  out : Option (Memory (BitVec 8))
  outSize : Option (BitVec 64)

/-- What the body of a call works on, once the arguments have passed their checks
and the work buffer is allocated. -/
structure Job where
  key : GcmKey
  iv : Memory (BitVec 8)
  input : Memory (BitVec 8)
  work : Work

namespace GcmCall

variable (env : Env) (key : Option GcmKey) (call : GcmCall)

/-- The call as an encryption. -/
def encrypt : Outcome :=
  aes256GcmEncrypt env key call.iv call.ivSize call.aad call.aadSize call.input
    call.inputSize call.out call.outSize

/-- The call as a decryption. -/
def decrypt : Outcome :=
  aes256GcmDecrypt env key call.iv call.ivSize call.aad call.aadSize call.input
    call.inputSize call.out call.outSize

/-- The job of a call that asks for a work buffer of the given size. -/
def job (bufferSize : BitVec 64) : Option Job :=
  match key, call.iv, call.input, call.out, call.outSize with
  | some key, some iv, some input, some out, some outSize =>
      if call.ivSize = 0 then
        none
      else
        (env.malloc bufferSize).map fun outBuf =>
          ⟨key, iv, input, ⟨Ctx.new, outBuf, out, outSize⟩⟩
  | _, _, _, _, _ => none

/-- The size of the work buffer of an encryption. -/
def encryptBuffer : BitVec 64 :=
  call.inputSize + BitVec.ofNat 64 sizeofGcmTag

/-- The size of the work buffer of a decryption. -/
def decryptBuffer : BitVec 64 :=
  call.inputSize - BitVec.ofNat 64 sizeofGcmTag

/-- How the body of an encryption ends, if it is reached. -/
def encryptRun : Option (Except GcmCode Unit × Work) :=
  (call.job env key call.encryptBuffer).map fun job =>
    encryptBody env job.key job.iv call.ivSize call.aad call.aadSize job.input
      call.inputSize job.work

/-- How the body of a decryption ends, if it is reached. -/
def decryptRun : Option (Except GcmCode Unit × Work) :=
  (call.job env key call.decryptBuffer).map fun job =>
    decryptBody env job.key job.iv call.ivSize call.aad call.aadSize job.input
      call.inputSize job.work

/-- The exit path after a body, or the early return without one. -/
def finish (size : BitVec 64) : Option (Except GcmCode Unit × Work) → Outcome
  | none => ⟨.errGeneric, call.out, call.outSize, none⟩
  | some (ended, work) => leave size ended work

theorem encrypt_eq :
    call.encrypt env key = call.finish call.encryptBuffer (call.encryptRun env key) := by
  rcases call with ⟨iv, ivSize, aad, aadSize, input, inputSize, out, outSize⟩
  cases key <;> cases iv <;> cases input <;> cases out <;> cases outSize <;> try rfl
  simp only [encrypt, encryptRun, job, aes256GcmEncrypt, withWorkBuffer]
  split
  · rfl
  · cases allocated : env.malloc (encryptBuffer _) <;>
      simp only [encryptBuffer] at allocated <;> rw [allocated] <;> rfl

theorem decrypt_eq :
    call.decrypt env key = call.finish call.decryptBuffer (call.decryptRun env key) := by
  rcases call with ⟨iv, ivSize, aad, aadSize, input, inputSize, out, outSize⟩
  cases key <;> cases iv <;> cases input <;> cases out <;> cases outSize <;> try rfl
  simp only [decrypt, decryptRun, job, aes256GcmDecrypt, withWorkBuffer]
  split
  · rfl
  · cases allocated : env.malloc (decryptBuffer _) <;>
      simp only [decryptBuffer] at allocated <;> rw [allocated] <;> rfl

/-- The job is made of the arguments, a new context and the allocated buffer. -/
structure JobOf (bufferSize : BitVec 64) (job : Job) : Prop where
  key : key = some job.key
  iv : call.iv = some job.iv
  ivNonempty : call.ivSize ≠ 0
  input : call.input = some job.input
  out : call.out = some job.work.out
  outSize : call.outSize = some job.work.outSize
  fresh : job.work.ctx = Ctx.new
  allocated : env.malloc bufferSize = some job.work.outBuf

theorem jobOf_of_job {bufferSize : BitVec 64} {job : Job}
    (reached : call.job env key bufferSize = some job) :
    JobOf env key call bufferSize job := by
  rcases call with ⟨iv, ivSize, aad, aadSize, input, inputSize, out, outSize⟩
  cases key <;> cases iv <;> cases input <;> cases out <;> cases outSize <;>
    try cases reached
  simp only [GcmCall.job] at reached
  split at reached
  · cases reached
  · rename_i nonempty
    obtain ⟨outBuf, allocated, same⟩ := Option.map_eq_some_iff.mp reached
    rw [← same]
    exact ⟨rfl, rfl, nonempty, rfl, rfl, rfl, rfl, allocated⟩

end GcmCall

end SandPlatform.HwkeyCrypt
