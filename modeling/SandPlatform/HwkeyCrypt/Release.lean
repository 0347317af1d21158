import SandPlatform.HwkeyCrypt.Stages

/-!
# Release of unauthenticated text

Decryption copies the decrypted text to the caller before it checks the tag, so a
call that fails the check has changed the caller's buffer unless the same bytes
were there before.
-/

namespace SandPlatform.HwkeyCrypt

open SandPlatform.Foundation

namespace GcmCall

/-- `data_len`. -/
def dataLen (call : GcmCall) : BitVec 32 :=
  intOfSize call.decryptBuffer

/-- The ciphertext of the blob. -/
def ciphertext (call : GcmCall) (job : Job) : List (BitVec 8) :=
  bytesAt job.input call.dataLen

/-- What the ciphertext decrypts to, authentic or not. -/
def plaintext (call : GcmCall) (evp : Evp) (job : Job) : List (BitVec 8) :=
  evp.gcm.decrypt job.key (nonceOf job.iv) (call.ciphertext job)

/-- The tag behind it. -/
def tag (call : GcmCall) (job : Job) : GcmTag :=
  tagAt job.input call.dataLen.toInt.toNat

/-- The context once the ciphertext is decrypted. -/
def decryptedCtx (call : GcmCall) (job : Job) : Ctx :=
  Ctx.update (call.ciphertext job)
    (keyedCtx job.key job.iv call.ivSize call.aad call.aadSize)

end GcmCall

variable {env : Env}

/-- The checks behind the copy: the library takes the tag, and it is right. -/
structure Verified (env : Env) (tag : GcmTag) (ctx : Ctx) : Prop where
  setTag : env.evp.accepts .setTag = true
  decryptFinal : env.evp.accepts .decryptFinal = true
  authentic : tag = env.evp.gcm.authenticate ctx.key ctx.nonce ctx.aad ctx.text

theorem tagMatches_setTag_iff (evp : Evp) (tag : GcmTag) (ctx : Ctx) :
    (Ctx.setTag tag ctx).tagMatches evp = true ↔
      tag = evp.gcm.authenticate ctx.key ctx.nonce ctx.aad ctx.text := by
  simp [Ctx.tagMatches, Ctx.setTag]

/-- `out_len` bytes of the work buffer copied to the caller. -/
def released (outLen : BitVec 32) (work : Work) : Work :=
  work.setOut (work.out.copy 0 work.outBuf 0 (sizeOfInt outLen).toNat)

theorem finishDecryption_verified {cipher : Memory (BitVec 8)}
    {dataLen : BitVec 32} (outLen : BitVec 32) {work : Work}
    (verified : Verified env (tagAt cipher dataLen.toInt.toNat) work.ctx) :
    finishDecryption env cipher dataLen outLen work =
      (.ok (), ((released outLen work).setCtx
        (Ctx.setTag (tagAt cipher dataLen.toInt.toNat))).setOutSize
          (sizeOfInt outLen)) := by
  rw [finishDecryption, Exec.bind_of_ok (copyOut_run _ _ work), setTag, bind_assoc,
    Exec.bind_of_ok (evpCall_of_accepts verified.setTag _ _),
    Exec.modify_bind_apply, decryptFinal, bind_assoc,
    Exec.bind_of_ok (evpCall_of_accepts verified.decryptFinal _ _), bind_assoc,
    Exec.gets_bind_apply]
  have matching : ((released outLen work).setCtx
      (Ctx.setTag (tagAt cipher dataLen.toInt.toNat))).ctx.tagMatches env.evp = true :=
    (tagMatches_setTag_iff _ _ _).mpr verified.authentic
  rw [released] at matching
  rw [if_pos matching]
  rfl

/-- A decryption that fails its checks has put out the text. -/
theorem finishDecryption_unverified {cipher : Memory (BitVec 8)}
    {dataLen : BitVec 32} (outLen : BitVec 32) {work : Work}
    (unverified : ¬ Verified env (tagAt cipher dataLen.toInt.toNat) work.ctx) :
    ∃ code final, code ≠ .noError ∧ final.out = (released outLen work).out ∧
      final.outSize = work.outSize ∧
      finishDecryption env cipher dataLen outLen work = (.error code, final) := by
  rw [finishDecryption, Exec.bind_of_ok (copyOut_run _ _ work), setTag, bind_assoc,
    evpCall_bind_apply]
  by_cases taken : env.evp.accepts .setTag = true
  · rw [if_pos taken, Exec.modify_bind_apply, decryptFinal, bind_assoc,
      evpCall_bind_apply]
    by_cases checked : env.evp.accepts .decryptFinal = true
    · have differing : ¬ ((released outLen work).setCtx
          (Ctx.setTag (tagAt cipher dataLen.toInt.toNat))).ctx.tagMatches env.evp =
            true := fun matching =>
        unverified ⟨taken, checked, (tagMatches_setTag_iff _ _ _).mp matching⟩
      rw [released] at differing
      rw [if_pos checked, bind_assoc, Exec.gets_bind_apply, if_neg differing]
      exact ⟨.errAuthFailed, (released outLen work).setCtx _, by decide, rfl, rfl, rfl⟩
    · rw [if_neg checked]
      exact ⟨.errAuthFailed, (released outLen work).setCtx _, by decide, rfl, rfl, rfl⟩
  · rw [if_neg taken]
    exact ⟨.errGeneric, released outLen work, by decide, rfl, rfl, rfl⟩

/-! ## Calls -/

namespace GcmCall

variable (env : Env) (key : Option GcmKey) (call : GcmCall)

theorem length_plaintext (job : Job) :
    (call.plaintext env.evp job).length = call.dataLen.toInt.toNat := by
  rw [plaintext, Aead.length_decrypt, ciphertext, length_bytesAt]

/-- The work once the ciphertext is decrypted. -/
def decryptedWork (call : GcmCall) (evp : Evp) (job : Job) : Work :=
  loadedWork (keyedCtx job.key job.iv call.ivSize call.aad call.aadSize)
    (call.ciphertext job) (call.plaintext evp job) job.work

/-- What reaches the caller is the decrypted text. -/
theorem released_eq_iff (job : Job) :
    (released (BitVec.ofNat 32 (call.plaintext env.evp job).length)
        (call.decryptedWork env.evp job)).out = job.work.out ↔
      job.work.out.read 0 (call.plaintext env.evp job).length =
        call.plaintext env.evp job := by
  have size : (sizeOfInt (BitVec.ofNat 32 (call.plaintext env.evp job).length)).toNat =
      (call.plaintext env.evp job).length := by
    rw [length_plaintext]
    exact toNat_sizeOfInt_ofNat (toInt_toNat_lt _)
  rw [released, size]
  refine Memory.copy_eq_self_iff.trans ?_
  rw [decryptedWork, loadedWork, read_putOut]
  exact Iff.rfl

/-- A call of the library that is refused before the copy ends the decryption. -/
theorem decryptBody_refused (job : Job)
    (refused : ¬ Prepared env call.ivSize call.aad call.aadSize call.dataLen) :
    ∃ final, Work.Untouched job.work.out job.work.outSize final ∧
      decryptBody env job.key job.iv call.ivSize call.aad call.aadSize job.input
        call.inputSize job.work = (.error .errGeneric, final) := by
  have stops : ∃ final, Work.Untouched job.work.out job.work.outSize final ∧
      prepare env Ctx.decrypted job.key job.iv call.ivSize call.aad call.aadSize
        job.input call.dataLen job.work = (.error .errGeneric, final) :=
    prepare_refused refused job.input job.work
  obtain ⟨final, untouched, stopped⟩ := stops
  refine ⟨final, untouched, ?_⟩
  rw [decryptBody_eq]
  exact Exec.bind_of_error stopped

theorem decryptBody_prepared (job : Job)
    (prepared : Prepared env call.ivSize call.aad call.aadSize call.dataLen) :
    decryptBody env job.key job.iv call.ivSize call.aad call.aadSize job.input
        call.inputSize job.work =
      finishDecryption env job.input call.dataLen
        (BitVec.ofNat 32 (call.plaintext env.evp job).length)
        (call.decryptedWork env.evp job) := by
  rw [decryptBody_eq]
  exact Exec.bind_of_ok (prepare_run prepared job.input job.work rfl)

/-- A failing decryption leaves the caller's buffer and size as they were exactly
when it fails before the update, or the checks behind the copy succeed, or the
decrypted text was in the buffer before. -/
theorem decrypt_silent_iff :
    ((call.decrypt env key).code ≠ .noError →
        (call.decrypt env key).out = call.out ∧
          (call.decrypt env key).outSize = call.outSize) ↔
      ∀ job, call.job env key call.decryptBuffer = some job →
        Prepared env call.ivSize call.aad call.aadSize call.dataLen →
        Verified env (call.tag job) (call.decryptedCtx job) ∨
          job.work.out.read 0 (call.plaintext env.evp job).length =
            call.plaintext env.evp job := by
  rw [decrypt_eq, decryptRun]
  cases reached : call.job env key call.decryptBuffer with
  | none => simp [finish]
  | some job =>
      have jobOf := jobOf_of_job env key call reached
      have exits (run : Except GcmCode Unit × Work) :
          ((call.finish call.decryptBuffer (some run)).code ≠ .noError →
            (call.finish call.decryptBuffer (some run)).out = call.out ∧
              (call.finish call.decryptBuffer (some run)).outSize = call.outSize) ↔
          (exitCode run.1 ≠ .noError →
            run.2.out = job.work.out ∧ run.2.outSize = job.work.outSize) := by
        rw [jobOf.out, jobOf.outSize]
        simp [finish, leave]
      rw [Option.map_some, exits]
      simp only [Option.some.injEq, forall_eq']
      by_cases prepared : Prepared env call.ivSize call.aad call.aadSize call.dataLen
      · rw [decryptBody_prepared env call job prepared, forall_prop_of_true prepared]
        let outLen := BitVec.ofNat 32 (call.plaintext env.evp job).length
        let work := call.decryptedWork env.evp job
        by_cases verified : Verified env (call.tag job) (call.decryptedCtx job)
        · have returned : finishDecryption env job.input call.dataLen outLen work =
              (.ok (), _) := finishDecryption_verified outLen verified
          rw [returned]
          exact iff_of_true (fun failed => absurd rfl failed) (Or.inl verified)
        · have stops : ∃ code final, code ≠ .noError ∧
              final.out = (released outLen work).out ∧ final.outSize = work.outSize ∧
              finishDecryption env job.input call.dataLen outLen work =
                (.error code, final) := finishDecryption_unverified outLen verified
          obtain ⟨code, final, failed, sameOut, sameSize, stopped⟩ := stops
          rw [stopped, or_iff_right verified, ← released_eq_iff, sameOut, sameSize]
          exact ⟨fun silent => (silent failed).1, fun same _ => ⟨same, rfl⟩⟩
      · obtain ⟨final, untouched, stopped⟩ := decryptBody_refused env call job prepared
        rw [stopped, untouched.1, untouched.2]
        simp [prepared]

/-- A block of zeroes with a tag of zeroes, to be decrypted into a buffer of
zeroes. -/
def forged : GcmCall where
  iv := some fun _ => 0
  ivSize := 12
  aad := none
  aadSize := 0
  input := some fun _ => 0
  inputSize := 32
  out := some fun _ => 0
  outSize := some 0

/-- The forgery is refused, and the text it decrypts to is in the buffer. -/
theorem forged_released :
    ¬ ((forged.decrypt ⟨zeroBlockEvp, zeroMalloc⟩ (some (Vector.replicate 32 0))).code ≠
          .noError →
        (forged.decrypt ⟨zeroBlockEvp, zeroMalloc⟩ (some (Vector.replicate 32 0))).out =
            forged.out ∧
          (forged.decrypt ⟨zeroBlockEvp, zeroMalloc⟩
              (some (Vector.replicate 32 0))).outSize = forged.outSize) := by
  intro silent
  have failed : (forged.decrypt ⟨zeroBlockEvp, zeroMalloc⟩
      (some (Vector.replicate 32 0))).code ≠ .noError := by decide +kernel
  have first := congrArg (fun out => out.map fun bytes => bytes 0) (silent failed).1
  revert first
  decide +kernel

end GcmCall

end SandPlatform.HwkeyCrypt
