import Mathlib.Data.BitVec
import SandPlatform.HwkeyCrypt.Release

/-!
# Lengths of texts

Sizes are of type `size_t`, the library takes ints, and the tag is added to the
one and subtracted from the other.  A call that returns without error has worked
on all the bytes it was given exactly when every length on the way fits.
-/

namespace SandPlatform.HwkeyCrypt

open SandPlatform.Foundation

/-! ## Conversions -/

/-- A size is kept as an int exactly when it is below the sign bit. -/
theorem toInt_intOfSize_iff (size : BitVec 64) :
    (intOfSize size).toInt = size.toNat ↔ size.toNat < 2 ^ 31 := by
  constructor
  · intro same
    have bound := toInt_toNat_lt (intOfSize size)
    rw [same, Int.toNat_natCast] at bound
    exact bound
  · intro small
    have value := toInt_intOfSize small
    have same : (intOfSize size).toNat = size.toNat := by
      rw [intOfSize, BitVec.toNat_setWidth, Nat.mod_eq_of_lt (by omega)]
    rw [BitVec.toInt_eq_toNat_of_lt (by omega), same]

/-- The tag is added to an int without overflow. -/
theorem toInt_intOfSize_add_iff {size : BitVec 64} (small : size.toNat < 2 ^ 31) :
    (intOfSize size + BitVec.ofNat 32 sizeofGcmTag).toInt = size.toNat + sizeofGcmTag ↔
      size.toNat + sizeofGcmTag < 2 ^ 31 := by
  have added : intOfSize size + BitVec.ofNat 32 sizeofGcmTag =
      intOfSize (size + BitVec.ofNat 64 sizeofGcmTag) := by
    rw [intOfSize_add]
    rfl
  have sum : (size + BitVec.ofNat 64 sizeofGcmTag).toNat = size.toNat + sizeofGcmTag := by
    rw [BitVec.toNat_add]
    exact Nat.mod_eq_of_lt (by simp [sizeofGcmTag]; omega)
  rw [added, ← sum, ← toInt_intOfSize_iff, sum]
  exact Iff.rfl

namespace GcmCall

variable (env : Env) (key : Option GcmKey) (call : GcmCall)

/-- The iv length and the associated data are passed on at their full lengths. -/
structure HeadExact : Prop where
  ivLength : (intOfSize call.ivSize).toInt = call.ivSize.toNat
  aad : call.aad.isSome → (intOfSize call.aadSize).toInt = call.aadSize.toNat

/-- The lengths that both directions convert fit an int. -/
structure HeadFits : Prop where
  iv : call.ivSize.toNat < 2 ^ 31
  aad : call.aad.isSome → call.aadSize.toNat < 2 ^ 31

theorem headExact_iff : call.HeadExact ↔ call.HeadFits := by
  constructor
  · intro exact
    exact ⟨(toInt_intOfSize_iff _).mp exact.ivLength,
      fun given => (toInt_intOfSize_iff _).mp (exact.aad given)⟩
  · intro fits
    exact ⟨(toInt_intOfSize_iff _).mpr fits.iv,
      fun given => (toInt_intOfSize_iff _).mpr (fits.aad given)⟩

/-- All the associated data has been passed to the cipher. -/
structure AadPassed (ctx : Ctx) : Prop where
  length : ctx.aad.length = call.aadSize.toNat
  bytes : ∀ aad, call.aad = some aad → ctx.aad = aad.read 0 call.aadSize.toNat

/-- What fits has been passed, unless a size came without data. -/
theorem aadPassed_iff (fits : call.HeadFits) {ctx : Ctx}
    (passed : ctx.aad = aadBytes call.aad call.aadSize) :
    call.AadPassed ctx ↔ (call.aad = none → call.aadSize = 0) := by
  cases given : call.aad with
  | none =>
      rw [given] at passed
      constructor
      · intro complete _
        have nothing := complete.length
        rw [passed] at nothing
        exact BitVec.eq_of_toNat_eq nothing.symm
      · intro empty
        constructor
        · rw [passed, empty rfl]
          rfl
        · intro aad some
          rw [given] at some
          cases some
  | some aad =>
      have small := fits.aad (by rw [given]; rfl)
      rw [given, aadBytes, bytesAt_intOfSize aad small] at passed
      constructor
      · intro _ none
        cases none
      · intro _
        constructor
        · rw [passed, Memory.length_read]
        · intro other same
          rw [given] at same
          cases same
          exact passed

end GcmCall

/-! ## Encryption -/

variable {env : Env}

/-- Ciphertext, tag and size delivered: the context stays as it was. -/
theorem deliverCipher_accepted (accepted : env.evp.accepts .getTag = true)
    (outLen : BitVec 32) (work : Work) :
    ∃ final, deliverCipher env outLen work = (.ok (), final) ∧
      final.ctx = work.ctx ∧
      final.outSize = sizeOfInt (outLen + BitVec.ofNat 32 sizeofGcmTag) := by
  rw [deliverCipher, Exec.bind_of_ok (copyOut_run _ _ work), getTag, bind_assoc,
    Exec.bind_of_ok (evpCall_of_accepts accepted _ _), bind_assoc,
    Exec.gets_bind_apply, Exec.modify_bind_apply,
    Exec.bind_of_ok (copyOut_run _ _ _)]
  exact ⟨_, rfl, rfl, rfl⟩

theorem deliverCipher_refused (refused : ¬ env.evp.accepts .getTag = true)
    (outLen : BitVec 32) (work : Work) :
    ∃ final, deliverCipher env outLen work = (.error .errAuthFailed, final) := by
  rw [deliverCipher, Exec.bind_of_ok (copyOut_run _ _ work), getTag, bind_assoc,
    evpCall_bind_apply, if_neg refused]
  exact ⟨_, rfl⟩

namespace GcmCall

variable (env : Env) (key : Option GcmKey) (call : GcmCall)

/-- What an encryption asks of the library, apart from the common beginning. -/
structure EncryptAccepted : Prop where
  prepared : Prepared env call.ivSize call.aad call.aadSize (intOfSize call.inputSize)
  encryptFinal : env.evp.accepts .encryptFinal = true
  getTag : env.evp.accepts .getTag = true

/-- The context and the size that an encryption ends with. -/
structure Encrypted (job : Job) (work : Work) : Prop where
  text : work.ctx.text = bytesAt job.input (intOfSize call.inputSize)
  aad : work.ctx.aad = aadBytes call.aad call.aadSize
  outSize : work.outSize =
    sizeOfInt (BitVec.ofNat 32 (intOfSize call.inputSize).toInt.toNat +
      BitVec.ofNat 32 sizeofGcmTag)

theorem encryptBody_accepted (accepted : call.EncryptAccepted env) (job : Job) :
    ∃ work, encryptBody env job.key job.iv call.ivSize call.aad call.aadSize job.input
        call.inputSize job.work = (.ok (), work) ∧ call.Encrypted job work := by
  let text := bytesAt job.input (intOfSize call.inputSize)
  let cipher := env.evp.gcm.encrypt job.key (nonceOf job.iv) text
  let loaded := loadedWork (keyedCtx job.key job.iv call.ivSize call.aad call.aadSize)
    text cipher job.work
  have prepared : prepare env Ctx.encrypted job.key job.iv call.ivSize call.aad
      call.aadSize job.input (intOfSize call.inputSize) job.work =
        (.ok (BitVec.ofNat 32 cipher.length), loaded) :=
    prepare_run accepted.prepared job.input job.work rfl
  have length : cipher.length = (intOfSize call.inputSize).toInt.toNat := by
    rw [Aead.length_encrypt_eq, length_bytesAt]
  have nothing : BitVec.ofNat 32 cipher.length + (0 : BitVec 32) =
      BitVec.ofNat 32 (intOfSize call.inputSize).toInt.toNat := by
    rw [length]
    exact BitVec.add_zero _
  obtain ⟨final, delivered, sameCtx, size⟩ := deliverCipher_accepted accepted.getTag
    (BitVec.ofNat 32 cipher.length + 0) loaded
  rw [encryptBody_eq, Exec.bind_of_ok prepared, encryptFinal, bind_assoc,
    Exec.bind_of_ok (evpCall_of_accepts accepted.encryptFinal _ _), pure_bind]
  refine ⟨final, delivered, ?_, ?_, ?_⟩
  · rw [sameCtx]
    rfl
  · rw [sameCtx]
    rfl
  · rw [size, nothing]

/-- A refusal ends an encryption with an error. -/
theorem encryptBody_refused (refused : ¬ call.EncryptAccepted env) (job : Job) :
    ∃ code final, code ≠ .noError ∧
      encryptBody env job.key job.iv call.ivSize call.aad call.aadSize job.input
        call.inputSize job.work = (.error code, final) := by
  rw [encryptBody_eq]
  by_cases prepared : Prepared env call.ivSize call.aad call.aadSize
      (intOfSize call.inputSize)
  · rw [Exec.bind_of_ok (prepare_run prepared job.input job.work rfl), encryptFinal,
      bind_assoc, evpCall_bind_apply]
    split
    · rename_i finished
      have noTag : ¬ env.evp.accepts .getTag = true := fun tagged =>
        refused ⟨prepared, finished, tagged⟩
      obtain ⟨final, stopped⟩ := deliverCipher_refused noTag _ _
      exact ⟨.errAuthFailed, final, by decide, stopped⟩
    · exact ⟨.errGeneric, _, by decide, rfl⟩
  · have stops : ∃ final, prepare env Ctx.encrypted job.key job.iv call.ivSize call.aad
        call.aadSize job.input (intOfSize call.inputSize) job.work =
          (.error .errGeneric, final) := prepare_stops prepared job.input job.work
    obtain ⟨final, stopped⟩ := stops
    exact ⟨.errGeneric, final, by decide, Exec.bind_of_error stopped⟩

/-- Arguments, allocation and library admit an encryption. -/
structure EncryptAdmitted : Prop where
  reached : (call.job env key call.encryptBuffer).isSome
  accepted : call.EncryptAccepted env

/-- An encryption returns without error exactly when it is admitted, and then has
worked on what was converted. -/
theorem encrypt_noError_iff :
    (call.encrypt env key).code = .noError ↔ call.EncryptAdmitted env key := by
  rw [encrypt_eq, encryptRun]
  cases reached : call.job env key call.encryptBuffer with
  | none =>
      refine iff_of_false (by simp [finish]) ?_
      intro admitted
      have some := admitted.reached
      rw [reached] at some
      cases some
  | some job =>
      by_cases accepted : call.EncryptAccepted env
      · obtain ⟨work, run, _⟩ := encryptBody_accepted env call accepted job
        rw [Option.map_some, run]
        exact iff_of_true rfl ⟨by rw [reached]; rfl, accepted⟩
      · obtain ⟨code, final, failed, run⟩ := encryptBody_refused env call accepted job
        rw [Option.map_some, run]
        exact iff_of_false failed fun admitted => accepted admitted.accepted

theorem encryptRun_admitted (admitted : call.EncryptAdmitted env key) :
    ∃ job work, call.job env key call.encryptBuffer = some job ∧
      call.encryptRun env key = some (.ok (), work) ∧ call.Encrypted job work := by
  obtain ⟨job, reached⟩ := Option.isSome_iff_exists.mp admitted.reached
  obtain ⟨work, run, encrypted⟩ := encryptBody_accepted env call admitted.accepted job
  refine ⟨job, work, reached, ?_, encrypted⟩
  rw [encryptRun, reached, Option.map_some, run]

/-- No conversion and no addition of an encryption loses bits. -/
structure EncryptExact : Prop where
  head : call.HeadExact
  buffer : call.encryptBuffer.toNat = call.inputSize.toNat + sizeofGcmTag
  text : (intOfSize call.inputSize).toInt = call.inputSize.toNat
  total : (intOfSize call.inputSize + BitVec.ofNat 32 sizeofGcmTag).toInt =
    call.inputSize.toNat + sizeofGcmTag

/-- The lengths of an encryption fit an int, the text together with its tag. -/
structure EncryptFits : Prop where
  head : call.HeadFits
  noAad : call.aad = none → call.aadSize = 0
  text : call.inputSize.toNat + sizeofGcmTag < 2 ^ 31

/-- All the text and the associated data went in, and the size that came out counts
the tag. -/
structure EncryptedWhole (outcome : Outcome) (work : Work) : Prop where
  text : ∀ input, call.input = some input →
    work.ctx.text = input.read 0 call.inputSize.toNat
  aad : call.AadPassed work.ctx
  outSize : ∃ size, outcome.outSize = some size ∧
    size.toNat = call.inputSize.toNat + sizeofGcmTag

theorem encryptExact_iff :
    call.EncryptExact ↔
      call.HeadFits ∧ call.inputSize.toNat + sizeofGcmTag < 2 ^ 31 := by
  constructor
  · intro exact
    have small := (toInt_intOfSize_iff _).mp exact.text
    exact ⟨call.headExact_iff.mp exact.head, (toInt_intOfSize_add_iff small).mp exact.total⟩
  · rintro ⟨head, fits⟩
    have small : call.inputSize.toNat < 2 ^ 31 := Nat.lt_of_le_of_lt (Nat.le_add_right _ _) fits
    have buffer : call.encryptBuffer.toNat = call.inputSize.toNat + sizeofGcmTag := by
      rw [encryptBuffer, BitVec.toNat_add]
      exact Nat.mod_eq_of_lt (by simp only [sizeofGcmTag, BitVec.toNat_ofNat]; omega)
    exact ⟨call.headExact_iff.mpr head, buffer, (toInt_intOfSize_iff _).mpr small,
      (toInt_intOfSize_add_iff small).mpr fits⟩

theorem encryptedWhole_of_fits (fits : call.EncryptFits) {job : Job} {work : Work}
    (given : call.input = some job.input) (encrypted : call.Encrypted job work)
    {outcome : Outcome} (returned : outcome.outSize = some work.outSize) :
    call.EncryptedWhole outcome work where
  text input same := by
    rw [given, Option.some.injEq] at same
    have small : call.inputSize.toNat < 2 ^ 31 :=
      Nat.lt_of_le_of_lt (Nat.le_add_right _ _) fits.text
    rw [encrypted.text, bytesAt_intOfSize job.input small, same]
  aad := (call.aadPassed_iff fits.head encrypted.aad).mpr fits.noAad
  outSize := by
    refine ⟨work.outSize, returned, ?_⟩
    have small : call.inputSize.toNat < 2 ^ 31 :=
      Nat.lt_of_le_of_lt (Nat.le_add_right _ _) fits.text
    rw [encrypted.outSize, toInt_intOfSize small, ← BitVec.ofNat_add]
    exact toNat_sizeOfInt_ofNat fits.text

/-- An encryption that returns without error has lost nothing. -/
def EncryptSound : Prop :=
  (call.encrypt env key).code = .noError →
    call.EncryptExact ∧ ∃ work, call.encryptRun env key = some (.ok (), work) ∧
      call.EncryptedWhole (call.encrypt env key) work

theorem encryptSound_iff :
    call.EncryptSound env key ↔ (call.EncryptAdmitted env key → call.EncryptFits) := by
  rw [EncryptSound, encrypt_noError_iff]
  constructor
  · intro sound admitted
    obtain ⟨exact, work, run, whole⟩ := sound admitted
    obtain ⟨_, work', _, run', encrypted⟩ := encryptRun_admitted env key call admitted
    rw [run] at run'
    cases run'
    obtain ⟨head, text⟩ := call.encryptExact_iff.mp exact
    exact ⟨head, (call.aadPassed_iff head encrypted.aad).mp whole.aad, text⟩
  · intro fits admitted
    obtain ⟨job, work, reached, run, encrypted⟩ := encryptRun_admitted env key call admitted
    have given := (jobOf_of_job env key call reached).input
    have returned : (call.encrypt env key).outSize = some work.outSize := by
      rw [encrypt_eq, run]
      rfl
    exact ⟨call.encryptExact_iff.mpr ⟨(fits admitted).head, (fits admitted).text⟩, work, run,
      call.encryptedWhole_of_fits (fits admitted) given encrypted returned⟩

end GcmCall

/-! ## Decryption -/

namespace GcmCall

variable (env : Env) (key : Option GcmKey) (call : GcmCall)

/-- Arguments, allocation, library and tag admit a decryption. -/
structure DecryptAdmitted : Prop where
  prepared : Prepared env call.ivSize call.aad call.aadSize call.dataLen
  verified : ∃ job, call.job env key call.decryptBuffer = some job ∧
    Verified env (call.tag job) (call.decryptedCtx job)

/-- The text and the size that a decryption ends with. -/
structure Decrypted (job : Job) (work : Work) : Prop where
  text : work.ctx.text = call.ciphertext job
  aad : work.ctx.aad = aadBytes call.aad call.aadSize
  outSize : work.outSize = sizeOfInt (BitVec.ofNat 32 call.dataLen.toInt.toNat)

theorem decryptBody_verified
    (prepared : Prepared env call.ivSize call.aad call.aadSize call.dataLen) {job : Job}
    (verified : Verified env (call.tag job) (call.decryptedCtx job)) :
    ∃ work, decryptBody env job.key job.iv call.ivSize call.aad call.aadSize job.input
        call.inputSize job.work = (.ok (), work) ∧ call.Decrypted job work := by
  have finished : finishDecryption env job.input call.dataLen
      (BitVec.ofNat 32 (call.plaintext env.evp job).length)
      (call.decryptedWork env.evp job) = (.ok (), _) :=
    finishDecryption_verified _ verified
  rw [decryptBody_prepared env call job prepared, finished]
  refine ⟨_, rfl, rfl, rfl, ?_⟩
  rw [← call.length_plaintext env job]
  rfl

/-- A decryption returns without error exactly when it is admitted. -/
theorem decrypt_noError_iff :
    (call.decrypt env key).code = .noError ↔ call.DecryptAdmitted env key := by
  rw [decrypt_eq, decryptRun]
  cases reached : call.job env key call.decryptBuffer with
  | none =>
      refine iff_of_false (by simp [finish]) ?_
      intro admitted
      obtain ⟨job, same, _⟩ := admitted.verified
      rw [reached] at same
      cases same
  | some job =>
      rw [Option.map_some]
      by_cases prepared : Prepared env call.ivSize call.aad call.aadSize call.dataLen
      · by_cases verified : Verified env (call.tag job) (call.decryptedCtx job)
        · obtain ⟨work, run, _⟩ := decryptBody_verified env call prepared verified
          rw [run]
          exact iff_of_true rfl ⟨prepared, job, reached, verified⟩
        · have stops : ∃ code final, code ≠ .noError ∧ _ ∧ _ ∧
              finishDecryption env job.input call.dataLen
                (BitVec.ofNat 32 (call.plaintext env.evp job).length)
                (call.decryptedWork env.evp job) = (.error code, final) :=
            finishDecryption_unverified _ verified
          obtain ⟨code, final, failed, _, _, stopped⟩ := stops
          rw [decryptBody_prepared env call job prepared, stopped]
          refine iff_of_false failed ?_
          intro admitted
          obtain ⟨other, same, otherVerified⟩ := admitted.verified
          rw [reached, Option.some.injEq] at same
          rw [same] at verified
          exact verified otherVerified
      · obtain ⟨final, _, stopped⟩ := decryptBody_refused env call job prepared
        rw [stopped]
        exact iff_of_false (by simp [finish, leave, exitCode]) fun admitted =>
          prepared admitted.prepared

theorem decryptRun_admitted (admitted : call.DecryptAdmitted env key) :
    ∃ job work, call.job env key call.decryptBuffer = some job ∧
      call.decryptRun env key = some (.ok (), work) ∧ call.Decrypted job work := by
  obtain ⟨job, reached, verified⟩ := admitted.verified
  obtain ⟨work, run, decrypted⟩ := decryptBody_verified env call admitted.prepared verified
  refine ⟨job, work, reached, ?_, decrypted⟩
  rw [decryptRun, reached, Option.map_some, run]

/-- No conversion and no subtraction of a decryption loses bits. -/
structure DecryptExact : Prop where
  head : call.HeadExact
  buffer : call.decryptBuffer.toNat + sizeofGcmTag = call.inputSize.toNat
  text : call.dataLen.toInt = call.decryptBuffer.toNat

/-- The lengths of a decryption fit an int, and the blob holds a tag. -/
structure DecryptFits : Prop where
  head : call.HeadFits
  holdsTag : sizeofGcmTag ≤ call.inputSize.toNat
  text : call.inputSize.toNat - sizeofGcmTag < 2 ^ 31

/-- All the ciphertext was processed, and the size that came out is its size. -/
structure DecryptedWhole (outcome : Outcome) (work : Work) : Prop where
  holdsTag : sizeofGcmTag ≤ call.inputSize.toNat
  text : ∀ input, call.input = some input →
    work.ctx.text = input.read 0 (call.inputSize.toNat - sizeofGcmTag)
  outSize : ∃ size, outcome.outSize = some size ∧
    size.toNat = call.inputSize.toNat - sizeofGcmTag

/-- The subtraction is exact when the blob holds a tag. -/
theorem toNat_decryptBuffer_iff :
    call.decryptBuffer.toNat + sizeofGcmTag = call.inputSize.toNat ↔
      sizeofGcmTag ≤ call.inputSize.toNat := by
  have bound := call.inputSize.isLt
  have value : (BitVec.ofNat 64 sizeofGcmTag).toNat = sizeofGcmTag := by rfl
  rw [decryptBuffer, BitVec.toNat_sub, value, sizeofGcmTag]
  omega

theorem decryptExact_iff : call.DecryptExact ↔ call.DecryptFits := by
  constructor
  · intro exact
    have small := (toInt_intOfSize_iff _).mp exact.text
    have holdsTag := call.toNat_decryptBuffer_iff.mp exact.buffer
    exact ⟨call.headExact_iff.mp exact.head, holdsTag, by
      rw [← exact.buffer, Nat.add_sub_cancel]
      exact small⟩
  · intro fits
    have buffer := call.toNat_decryptBuffer_iff.mpr fits.holdsTag
    have text := fits.text
    rw [← buffer, Nat.add_sub_cancel] at text
    exact ⟨call.headExact_iff.mpr fits.head, buffer, (toInt_intOfSize_iff _).mpr text⟩

theorem decryptedWhole_of_fits (fits : call.DecryptFits) {job : Job} {work : Work}
    (given : call.input = some job.input) (decrypted : call.Decrypted job work)
    {outcome : Outcome} (returned : outcome.outSize = some work.outSize) :
    call.DecryptedWhole outcome work := by
  have buffer := call.toNat_decryptBuffer_iff.mpr fits.holdsTag
  have small : call.decryptBuffer.toNat < 2 ^ 31 := by
    have text := fits.text
    rw [← buffer, Nat.add_sub_cancel] at text
    exact text
  have size : call.inputSize.toNat - sizeofGcmTag = call.decryptBuffer.toNat := by
    rw [← buffer, Nat.add_sub_cancel]
  refine ⟨fits.holdsTag, ?_, work.outSize, returned, ?_⟩
  · intro input same
    rw [given, Option.some.injEq] at same
    rw [decrypted.text, ciphertext, dataLen, bytesAt_intOfSize job.input small, same, size]
  · rw [decrypted.outSize, dataLen, toInt_intOfSize small, size]
    exact toNat_sizeOfInt_ofNat small

/-- A decryption that returns without error has lost nothing. -/
def DecryptSound : Prop :=
  (call.decrypt env key).code = .noError →
    call.DecryptExact ∧ ∃ work, call.decryptRun env key = some (.ok (), work) ∧
      call.DecryptedWhole (call.decrypt env key) work

theorem decryptSound_iff :
    call.DecryptSound env key ↔ (call.DecryptAdmitted env key → call.DecryptFits) := by
  rw [DecryptSound, decrypt_noError_iff]
  constructor
  · intro sound admitted
    exact call.decryptExact_iff.mp (sound admitted).1
  · intro fits admitted
    obtain ⟨job, work, reached, run, decrypted⟩ := decryptRun_admitted env key call admitted
    have given := (jobOf_of_job env key call reached).input
    have returned : (call.decrypt env key).outSize = some work.outSize := by
      rw [decrypt_eq, run]
      rfl
    exact ⟨call.decryptExact_iff.mpr (fits admitted), work, run,
      call.decryptedWhole_of_fits (fits admitted) given decrypted returned⟩

/-! ## Both directions -/

/-- Nothing is lost without an error exactly when every call that returns without
error has lengths that fit: below the sign bit of an int, the text of an encryption
together with its tag, a blob no shorter than its tag, and no size for associated
data that is not there. -/
theorem lengths_kept_iff :
    (call.EncryptSound env key ∧ call.DecryptSound env key) ↔
      (call.EncryptAdmitted env key → call.EncryptFits) ∧
        (call.DecryptAdmitted env key → call.DecryptFits) :=
  and_congr (encryptSound_iff env key call) (decryptSound_iff env key call)

/-- One byte more than an unsigned int can count. -/
def overlong : GcmCall where
  iv := some fun _ => 0
  ivSize := 12
  aad := none
  aadSize := 0
  input := some fun _ => 0
  inputSize := 2 ^ 32 + 1
  out := some fun _ => 0
  outSize := some 0

/-- One byte is encrypted, and the call reports seventeen. -/
theorem overlong_shortened :
    ¬ (overlong.EncryptSound ⟨zeroBlockEvp, zeroMalloc⟩ (some (Vector.replicate 32 0)) ∧
        overlong.DecryptSound ⟨zeroBlockEvp, zeroMalloc⟩
          (some (Vector.replicate 32 0))) := by
  rintro ⟨sound, _⟩
  have succeeds : (overlong.encrypt ⟨zeroBlockEvp, zeroMalloc⟩
      (some (Vector.replicate 32 0))).code = .noError := by decide +kernel
  have reported : (overlong.encrypt ⟨zeroBlockEvp, zeroMalloc⟩
      (some (Vector.replicate 32 0))).outSize = some 17 := by decide +kernel
  obtain ⟨_, _, _, whole⟩ := sound succeeds
  obtain ⟨size, returned, value⟩ := whole.outSize
  rw [reported, Option.some.injEq] at returned
  rw [← returned] at value
  revert value
  decide

end GcmCall

end SandPlatform.HwkeyCrypt
