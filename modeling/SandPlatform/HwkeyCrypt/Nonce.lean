import SandPlatform.HwkeyCrypt.Stages

/-!
# Nonces of encryptions

The context takes its nonce when it is initialised, before the iv length of the
call is set.  The nonce is therefore the first twelve bytes behind the iv pointer,
whatever the length of the iv: two calls keep their nonces apart exactly when the
ivs of those that reach the library have that length.
-/

namespace SandPlatform.HwkeyCrypt

open SandPlatform.Foundation

/-! ## The nonce survives the call -/

@[simp]
theorem length_nonceOf (iv : Memory (BitVec 8)) : (nonceOf iv).length = 12 :=
  Memory.length_read _ _ _

theorem nonceOf_ne_nil (iv : Memory (BitVec 8)) : nonceOf iv ≠ [] := by
  intro empty
  have length := length_nonceOf iv
  rw [empty] at length
  cases length

/-- The nonce in the context. -/
def Work.HasNonce (nonce : List (BitVec 8)) (work : Work) : Prop :=
  work.ctx.nonce = nonce

variable {env : Env} {key : GcmKey} {iv : Memory (BitVec 8)} {ivSize : BitVec 64}
variable (nonce : List (BitVec 8))

theorem evpCall_nonce (call : EvpCall) (code : GcmCode) :
    Exec.Preserves (Work.HasNonce nonce) (evpCall env call code) := by
  apply Exec.preserves_ite
  · exact Exec.preserves_pure _ _
  · exact Exec.preserves_stop _ _

theorem copyOut_nonce (start size : Nat) :
    Exec.Preserves (Work.HasNonce nonce) (copyOut start size) := by
  intro work same
  rw [copyOut_run]
  exact same

theorem setAad_nonce (aad : Option (Memory (BitVec 8))) (aadSize : BitVec 64) :
    Exec.Preserves (Work.HasNonce nonce) (setAad env aad aadSize) := by
  cases aad with
  | none => exact Exec.preserves_pure _ _
  | some aad =>
      refine Exec.preserves_bind (evpCall_nonce nonce _ _) fun _ => ?_
      exact Exec.preserves_modify fun _ same => same

theorem encryptUpdate_nonce (plain : Memory (BitVec 8)) (length : BitVec 32) :
    Exec.Preserves (Work.HasNonce nonce) (encryptUpdate env plain length) := by
  refine Exec.preserves_bind (evpCall_nonce nonce _ _) fun _ => ?_
  refine Exec.preserves_bind (Exec.preserves_gets _ _) fun ctx => ?_
  refine Exec.preserves_bind (Exec.preserves_modify fun _ same => same) fun _ => ?_
  refine Exec.preserves_bind (Exec.preserves_modify fun _ same => same) fun _ => ?_
  exact Exec.preserves_pure _ _

theorem deliverCipher_nonce (outLen : BitVec 32) :
    Exec.Preserves (Work.HasNonce nonce) (deliverCipher env outLen) := by
  have tagged : Exec.Preserves (Work.HasNonce nonce) (getTag env) := by
    refine Exec.preserves_bind (evpCall_nonce nonce _ _) fun _ => ?_
    refine Exec.preserves_bind (Exec.preserves_gets _ _) fun ctx => ?_
    exact Exec.preserves_modify fun _ same => same
  refine Exec.preserves_bind (copyOut_nonce nonce _ _) fun _ => ?_
  refine Exec.preserves_bind tagged fun _ => ?_
  refine Exec.preserves_bind (copyOut_nonce nonce _ _) fun _ => ?_
  exact Exec.preserves_modify fun _ same => same

/-- The library creates and initialises the context. -/
def Initialised (env : Env) : Prop :=
  env.evp.accepts .ctxNew = true ∧ env.evp.accepts .init = true

instance (env : Env) : Decidable (Initialised env) :=
  inferInstanceAs (Decidable (_ ∧ _))

/-- Setting the iv length comes too late for the nonce. -/
theorem setUp_nonce {work : Work} (fresh : work.ctx = Ctx.new) :
    Work.HasNonce (if Initialised env then nonceOf iv else [])
      (setUp env key iv ivSize work).2 := by
  rw [setUp, evpCall_bind_apply]
  by_cases created : env.evp.accepts .ctxNew = true
  · rw [if_pos created, Exec.modify_bind_apply, evpCall_bind_apply]
    by_cases initialised : env.evp.accepts .init = true
    · rw [if_pos initialised, if_pos ⟨created, initialised⟩, Exec.modify_bind_apply]
      refine Exec.holds_bind ?_ fun _ => ?_
      · exact evpCall_nonce _ _ _ _ rfl
      · exact Exec.preserves_modify fun _ same => same
    · rw [if_neg initialised, if_neg fun both => initialised both.2]
      rfl
  · rw [if_neg created, if_neg fun both => created both.1]
    exact congrArg Ctx.nonce fresh

/-- The nonce is decided once key and iv are set. -/
theorem encryptBody_nonce {work : Work} (fresh : work.ctx = Ctx.new)
    (aad : Option (Memory (BitVec 8))) (aadSize : BitVec 64)
    (plain : Memory (BitVec 8)) (plainSize : BitVec 64) :
    Work.HasNonce (if Initialised env then nonceOf iv else [])
      (encryptBody env key iv ivSize aad aadSize plain plainSize work).2 := by
  refine Exec.holds_bind (setUp_nonce fresh) fun _ => ?_
  refine Exec.preserves_bind (setAad_nonce _ _ _) fun _ => ?_
  refine Exec.preserves_bind (encryptUpdate_nonce _ _ _) fun outLen => ?_
  refine Exec.preserves_bind ?_ fun curLen => deliverCipher_nonce _ _
  exact Exec.preserves_bind (evpCall_nonce _ _ _) fun _ => Exec.preserves_pure _ _

/-! ## Two calls -/

namespace GcmCall

variable (env : Env) (key : Option GcmKey) (call : GcmCall)

/-- The bytes of the iv. -/
def ivBytes : Option (List (BitVec 8)) :=
  call.iv.map fun iv => iv.read 0 call.ivSize.toNat

/-- The nonce in the context when the call leaves.  A context that was not
initialised has none. -/
def encryptNonce : Option (List (BitVec 8)) :=
  (call.encryptRun env key).bind fun run =>
    if run.2.ctx.nonce = [] then none else some run.2.ctx.nonce

/-- The arguments pass their checks, the work buffer is allocated, and the context
is initialised. -/
def RunsGcm : Prop :=
  (call.job env key call.encryptBuffer).isSome ∧ Initialised env

/-- The nonce is made of the whole iv and of nothing else. -/
def UsesWholeIv : Prop :=
  ∀ nonce, call.encryptNonce env key = some nonce → call.ivBytes = some nonce

/-- Both calls use their whole ivs, and no nonce is used twice. -/
structure NoncesApart (env env' : Env) (key : Option GcmKey)
    (first second : GcmCall) : Prop where
  firstWhole : first.UsesWholeIv env key
  secondWhole : second.UsesWholeIv env' key
  distinct : ∀ nonce, first.encryptNonce env key = some nonce →
    second.encryptNonce env' key ≠ some nonce

/-- A call that runs has the first twelve bytes behind its iv pointer as nonce. -/
theorem encryptNonce_eq_some_iff (nonce : List (BitVec 8)) :
    call.encryptNonce env key = some nonce ↔
      call.RunsGcm env key ∧ call.iv.map nonceOf = some nonce := by
  rw [encryptNonce, encryptRun, RunsGcm]
  cases reached : call.job env key call.encryptBuffer with
  | none => simp
  | some job =>
      have jobOf := jobOf_of_job env key call reached
      have decided : Work.HasNonce (if Initialised env then nonceOf job.iv else [])
          (encryptBody env job.key job.iv call.ivSize call.aad call.aadSize job.input
            call.inputSize job.work).2 :=
        encryptBody_nonce jobOf.fresh call.aad call.aadSize job.input call.inputSize
      rw [Work.HasNonce] at decided
      rw [Option.map_some, Option.bind_some, decided, jobOf.iv]
      by_cases initialised : Initialised env
      · rw [if_pos initialised, if_neg (nonceOf_ne_nil job.iv)]
        simp [initialised]
      · rw [if_neg initialised]
        simp [initialised]

theorem RunsGcm.has_iv {env : Env} {key : Option GcmKey} {call : GcmCall}
    (runs : call.RunsGcm env key) : ∃ iv, call.iv = some iv := by
  obtain ⟨job, reached⟩ := Option.isSome_iff_exists.mp runs.1
  exact ⟨job.iv, (jobOf_of_job env key call reached).iv⟩

/-- The whole iv becomes the nonce exactly when it has the default length. -/
theorem usesWholeIv_iff :
    call.UsesWholeIv env key ↔ (call.RunsGcm env key → call.ivSize = 12) := by
  constructor
  · intro whole runs
    obtain ⟨iv, given⟩ := runs.has_iv
    have used : call.encryptNonce env key = some (nonceOf iv) := by
      rw [encryptNonce_eq_some_iff, given]
      exact ⟨runs, rfl⟩
    have same := whole (nonceOf iv) used
    rw [ivBytes, given, Option.map_some, Option.some_inj] at same
    have length := congrArg List.length same
    rw [Memory.length_read, length_nonceOf] at length
    exact BitVec.eq_of_toNat_eq length
  · intro twelve nonce used
    obtain ⟨runs, derived⟩ := (encryptNonce_eq_some_iff env key call nonce).mp used
    rw [ivBytes, twelve runs]
    exact derived

/-- Two encryptions under the same key with different ivs use their whole ivs, and
different nonces, exactly when the ivs that reach the library have twelve bytes. -/
theorem noncesApart_iff (env env' : Env) (key : Option GcmKey) (first second : GcmCall)
    (differ : first.ivBytes ≠ second.ivBytes) :
    NoncesApart env env' key first second ↔
      (first.RunsGcm env key → first.ivSize = 12) ∧
        (second.RunsGcm env' key → second.ivSize = 12) := by
  constructor
  · intro apart
    exact ⟨(usesWholeIv_iff env key first).mp apart.firstWhole,
      (usesWholeIv_iff env' key second).mp apart.secondWhole⟩
  · rintro ⟨firstTwelve, secondTwelve⟩
    have firstWhole := (usesWholeIv_iff env key first).mpr firstTwelve
    have secondWhole := (usesWholeIv_iff env' key second).mpr secondTwelve
    refine ⟨firstWhole, secondWhole, fun nonce used used' => differ ?_⟩
    rw [firstWhole nonce used, secondWhole nonce used']

/-- An encryption of a zero block. -/
def withIv (iv : Memory (BitVec 8)) (ivSize : BitVec 64) : GcmCall where
  iv := some iv
  ivSize := ivSize
  aad := none
  aadSize := 0
  input := some fun _ => 0
  inputSize := 16
  out := some fun _ => 0
  outSize := some 0

/-- Two ivs of twelve bytes. -/
theorem noncesApart_twelve :
    (withIv (fun _ => 0) 12).ivBytes ≠ (withIv (fun _ => 1) 12).ivBytes ∧
      NoncesApart ⟨zeroBlockEvp, zeroMalloc⟩ ⟨zeroBlockEvp, zeroMalloc⟩
        (some (Vector.replicate 32 0)) (withIv (fun _ => 0) 12)
        (withIv (fun _ => 1) 12) := by
  have differ : (withIv (fun _ => 0) 12).ivBytes ≠ (withIv (fun _ => 1) 12).ivBytes := by
    decide
  exact ⟨differ, (noncesApart_iff _ _ _ _ _ differ).mpr ⟨fun _ => rfl, fun _ => rfl⟩⟩

/-- Zeroes up to the last of sixteen bytes. -/
def lastByteOnly (last : BitVec 8) : Memory (BitVec 8) :=
  fun i => if i = 15 then last else 0

/-- Two ivs of sixteen bytes that differ in the last one give the same nonce. -/
theorem nonce_reused :
    ¬ ((withIv (lastByteOnly 0) 16).ivBytes ≠ (withIv (lastByteOnly 1) 16).ivBytes →
      NoncesApart ⟨zeroBlockEvp, zeroMalloc⟩ ⟨zeroBlockEvp, zeroMalloc⟩
        (some (Vector.replicate 32 0)) (withIv (lastByteOnly 0) 16)
        (withIv (lastByteOnly 1) 16)) := by
  intro holds
  have apart := holds (by decide)
  have used : (withIv (lastByteOnly 0) 16).encryptNonce ⟨zeroBlockEvp, zeroMalloc⟩
      (some (Vector.replicate 32 0)) = some (List.replicate 12 0) := by
    decide +kernel
  have used' : (withIv (lastByteOnly 1) 16).encryptNonce ⟨zeroBlockEvp, zeroMalloc⟩
      (some (Vector.replicate 32 0)) = some (List.replicate 12 0) := by
    decide +kernel
  exact apart.distinct _ used used'

end GcmCall

end SandPlatform.HwkeyCrypt
