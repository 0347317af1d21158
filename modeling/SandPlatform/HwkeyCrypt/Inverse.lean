import SandPlatform.HwkeyCrypt.Stages

/-!
# Decryption undoes encryption

With a library that accepts every call, encryption leaves the wrapped text in
the caller's buffer and decryption unwraps it.  Each direction of the inverse
follows from the other function's specification and the laws of authenticated
encryption.  Both functions take their nonce from the twelve bytes behind the iv
pointer, so they undo each other exactly for ivs that have as many bytes.
-/

namespace SandPlatform.HwkeyCrypt

open SandPlatform.Foundation

/-! ## Calls that succeed -/

variable (env : Env)

/-- Every allocation and every library call for a text of some size succeeds. -/
structure Succeeds (ivSize : BitVec 64) (aad : Option (Memory (BitVec 8)))
    (aadSize textSize : BitVec 64) : Prop where
  malloc : ∀ size, ∃ block, env.malloc size = some block
  ctxNew : env.evp.accepts .ctxNew = true
  init : env.evp.accepts .init = true
  setIvlen : env.evp.accepts (.setIvlen (intOfSize ivSize)) = true
  aad : ∀ bytes, aad = some bytes →
    env.evp.accepts (.aad (intOfSize aadSize)) = true
  update : env.evp.accepts (.update (intOfSize textSize)) = true
  encryptFinal : env.evp.accepts .encryptFinal = true
  decryptFinal : env.evp.accepts .decryptFinal = true
  getTag : env.evp.accepts .getTag = true
  setTag : env.evp.accepts .setTag = true

variable {env} {key : GcmKey} {iv : Memory (BitVec 8)} {ivSize : BitVec 64}
variable {aad : Option (Memory (BitVec 8))} {aadSize textSize : BitVec 64}

theorem Succeeds.prepared (succeeds : Succeeds env ivSize aad aadSize textSize) :
    Prepared env ivSize aad aadSize (intOfSize textSize) :=
  ⟨⟨succeeds.ctxNew, succeeds.init, succeeds.setIvlen⟩, succeeds.aad, succeeds.update⟩

/-- With all calls accepted, a text that fits an int is transformed into one of
the same length. -/
theorem prepare_succeeds (succeeds : Succeeds env ivSize aad aadSize textSize)
    (small : textSize.toNat < 2 ^ 31) (input : Memory (BitVec 8)) (work : Work)
    {transformed : Evp → List (BitVec 8) → Ctx → List (BitVec 8)}
    {output : List (BitVec 8)}
    (transforms : transformed env.evp (input.read 0 textSize.toNat)
      (keyedCtx key iv ivSize aad aadSize) = output)
    (length : output.length = textSize.toNat) :
    prepare env transformed key iv ivSize aad aadSize input (intOfSize textSize) work =
      (.ok (intOfSize textSize),
        loadedWork (keyedCtx key iv ivSize aad aadSize)
          (input.read 0 textSize.toNat) output work) := by
  have bytes := bytesAt_intOfSize input small
  rw [← bytes] at transforms
  rw [prepare_run succeeds.prepared input work transforms, ofNat_length length, bytes]

/-! ## Encryption -/

theorem toNat_add_tag {size : BitVec 64} (small : size.toNat < 2 ^ 31 - 16) :
    (size + BitVec.ofNat 64 sizeofGcmTag).toNat = size.toNat + sizeofGcmTag := by
  have tag : (BitVec.ofNat 64 sizeofGcmTag).toNat = sizeofGcmTag := rfl
  have sixteen : sizeofGcmTag = 16 := rfl
  rw [BitVec.toNat_add]
  omega

theorem encryptFinal_run (succeeds : Succeeds env ivSize aad aadSize textSize)
    (work : Work) : encryptFinal env work = (.ok 0, work) := by
  rw [encryptFinal,
    Exec.bind_of_ok (evpCall_of_accepts succeeds.encryptFinal _ _)]
  rfl

theorem getTag_run (succeeds : Succeeds env ivSize aad aadSize textSize)
    (work : Work) :
    getTag env work = (.ok (), work.putOut (work.ctx.getTag env.evp).toList) := by
  rw [getTag, Exec.bind_of_ok (evpCall_of_accepts succeeds.getTag _ _),
    Exec.gets_bind_apply]
  rfl

/-- The ciphertext and the tag in the caller's buffer. -/
theorem deliverCipher_run (succeeds : Succeeds env ivSize aad aadSize textSize)
    (small : textSize.toNat < 2 ^ 31 - 16) {work : Work}
    {cipher : List (BitVec 8)} (length : cipher.length = textSize.toNat)
    (loaded : work.outBuf.read 0 textSize.toNat = cipher) :
    ∃ final, deliverCipher env (intOfSize textSize) work = (.ok (), final) ∧
      final.outSize = textSize + BitVec.ofNat 64 sizeofGcmTag ∧
      final.out.read 0 textSize.toNat = cipher ∧
      tagAt final.out textSize.toNat = work.ctx.getTag env.evp := by
  have narrow : textSize.toNat < 2 ^ 31 := by omega
  have size : (textSize + BitVec.ofNat 64 sizeofGcmTag).toNat < 2 ^ 31 := by
    rw [toNat_add_tag small, sizeofGcmTag]
    omega
  have total : sizeOfInt (intOfSize textSize + BitVec.ofNat 32 sizeofGcmTag) =
      textSize + BitVec.ofNat 64 sizeofGcmTag := by
    have tag : BitVec.ofNat 32 sizeofGcmTag =
        intOfSize (BitVec.ofNat 64 sizeofGcmTag) := rfl
    rw [tag, ← intOfSize_add, sizeOfInt_intOfSize size]
  let delivered := work.setOut (work.out.copy 0 work.outBuf 0 textSize.toNat)
  let tagged := delivered.putOut (work.ctx.getTag env.evp).toList
  have tag : getTag env delivered = (.ok (), tagged) := getTag_run succeeds delivered
  rw [deliverCipher, sizeOfInt_intOfSize narrow,
    Exec.bind_of_ok (copyOut_run _ _ work), Exec.bind_of_ok tag,
    toInt_intOfSize narrow, Exec.bind_of_ok (copyOut_run _ _ tagged), total]
  refine ⟨_, rfl, rfl, ?_, ?_⟩
  · have front : (tagged.out.copy textSize.toNat tagged.outBuf 0 sizeofGcmTag).read 0
        textSize.toNat = delivered.out.read 0 textSize.toNat :=
      Memory.read_copy_of_le _ _ (Nat.le_of_eq (Nat.zero_add _))
    exact front.trans ((Memory.read_copy _ _ _ _ _).trans loaded)
  · have bytes : (tagged.out.copy textSize.toNat tagged.outBuf 0 sizeofGcmTag).read
        textSize.toNat sizeofGcmTag = tagged.outBuf.read 0 sizeofGcmTag :=
      Memory.read_copy _ _ _ _ _
    have length : (work.ctx.getTag env.evp).toList.length = sizeofGcmTag :=
      Vector.length_toList
    have stored := read_putOut delivered (work.ctx.getTag env.evp).toList
    rw [length] at stored
    rw [← Vector.toList_inj, toList_tagAt]
    exact bytes.trans stored

/-- Encryption leaves the wrapped text. -/
theorem encryptBody_run (succeeds : Succeeds env ivSize aad aadSize textSize)
    (small : textSize.toNat < 2 ^ 31 - 16) (plain : Memory (BitVec 8))
    (work : Work) :
    ∃ final, encryptBody env key iv ivSize aad aadSize plain textSize work =
        (.ok (), final) ∧
      final.outSize = textSize + BitVec.ofNat 64 sizeofGcmTag ∧
      (final.out.read 0 textSize.toNat, tagAt final.out textSize.toNat) =
        env.evp.gcm.wrap key (nonceOf iv) (aadBytes aad aadSize)
          (plain.read 0 textSize.toNat) := by
  have narrow : textSize.toNat < 2 ^ 31 := by omega
  let cipher := env.evp.gcm.encrypt key (nonceOf iv) (plain.read 0 textSize.toNat)
  let loaded := loadedWork (keyedCtx key iv ivSize aad aadSize)
    (plain.read 0 textSize.toNat) cipher work
  have length : cipher.length = textSize.toNat := by
    rw [Aead.length_encrypt_eq, Memory.length_read]
  have prepared : prepare env Ctx.encrypted key iv ivSize aad aadSize plain
      (intOfSize textSize) work = (.ok (intOfSize textSize), loaded) :=
    prepare_succeeds succeeds narrow plain work rfl length
  have stored : loaded.outBuf.read 0 textSize.toNat = cipher := by
    rw [← length]
    exact read_putOut _ cipher
  rcases deliverCipher_run succeeds small length stored with
    ⟨final, delivered, size, text, tag⟩
  have nothing : intOfSize textSize + 0 = intOfSize textSize := BitVec.add_zero _
  rw [encryptBody_eq, Exec.bind_of_ok prepared,
    Exec.bind_of_ok (encryptFinal_run succeeds loaded), nothing]
  refine ⟨final, delivered, size, ?_⟩
  rw [text, tag]
  rfl

/-! ## Decryption -/

theorem setTag_run (succeeds : Succeeds env ivSize aad aadSize textSize)
    (tag : GcmTag) (work : Work) :
    setTag env tag work = (.ok (), work.setCtx (Ctx.setTag tag)) := by
  rw [setTag, Exec.bind_of_ok (evpCall_of_accepts succeeds.setTag _ _)]
  rfl

theorem decryptFinal_run (succeeds : Succeeds env ivSize aad aadSize textSize)
    (work : Work) :
    decryptFinal env work =
      (if work.ctx.tagMatches env.evp then .ok () else .error .errAuthFailed, work) := by
  rw [decryptFinal,
    Exec.bind_of_ok (evpCall_of_accepts succeeds.decryptFinal _ _),
    Exec.gets_bind_apply]
  split <;> rfl

/-- Decryption leaves the decrypted text whether or not the tag is right, and
returns without error exactly when it is. -/
theorem decryptBody_run (succeeds : Succeeds env ivSize aad aadSize textSize)
    (small : textSize.toNat < 2 ^ 31) (cipher : Memory (BitVec 8))
    {cipherSize : BitVec 64}
    (size : cipherSize - BitVec.ofNat 64 sizeofGcmTag = textSize) (work : Work) :
    ∃ ended final,
      decryptBody env key iv ivSize aad aadSize cipher cipherSize work =
        (ended, final) ∧
      final.out.read 0 textSize.toNat =
        env.evp.gcm.decrypt key (nonceOf iv) (cipher.read 0 textSize.toNat) ∧
      (exitCode ended = .noError ↔
        tagAt cipher textSize.toNat =
          env.evp.gcm.authenticate key (nonceOf iv) (aadBytes aad aadSize)
            (cipher.read 0 textSize.toNat)) ∧
      (exitCode ended = .noError → final.outSize = textSize) := by
  let text := env.evp.gcm.decrypt key (nonceOf iv) (cipher.read 0 textSize.toNat)
  let loaded := loadedWork (keyedCtx key iv ivSize aad aadSize)
    (cipher.read 0 textSize.toNat) text work
  have length : text.length = textSize.toNat := by
    rw [Aead.length_decrypt, Memory.length_read]
  have prepared : prepare env Ctx.decrypted key iv ivSize aad aadSize cipher
      (intOfSize textSize) work = (.ok (intOfSize textSize), loaded) :=
    prepare_succeeds succeeds small cipher work rfl length
  have stored : loaded.outBuf.read 0 textSize.toNat = text := by
    rw [← length]
    exact read_putOut _ text
  let tag := tagAt cipher textSize.toNat
  let checked := (loaded.setOut (loaded.out.copy 0 loaded.outBuf 0
    textSize.toNat)).setCtx (Ctx.setTag tag)
  have released : checked.out.read 0 textSize.toNat = text :=
    (Memory.read_copy _ _ _ _ _).trans stored
  have decision : checked.ctx.tagMatches env.evp = true ↔
      tag = env.evp.gcm.authenticate key (nonceOf iv) (aadBytes aad aadSize)
        (cipher.read 0 textSize.toNat) := by
    rw [Ctx.tagMatches, beq_iff_eq]
    exact Option.some_inj
  have final := decryptFinal_run succeeds checked
  rw [decryptBody_eq, size, Exec.bind_of_ok prepared, finishDecryption,
    sizeOfInt_intOfSize small,
    Exec.bind_of_ok (copyOut_run _ _ loaded), toInt_intOfSize small,
    Exec.bind_of_ok (setTag_run succeeds tag _)]
  by_cases valid : checked.ctx.tagMatches env.evp = true
  · rw [if_pos valid] at final
    rw [Exec.bind_of_ok final]
    exact ⟨_, _, rfl, released, iff_of_true rfl (decision.mp valid), fun _ => rfl⟩
  · rw [if_neg valid] at final
    rw [Exec.bind_of_error final]
    have failed : exitCode (.error .errAuthFailed) ≠ .noError := by decide
    exact ⟨_, _, rfl, released, iff_of_false failed (mt decision.mpr valid),
      fun success => absurd success failed⟩

/-! ## The two functions -/

theorem withWorkBuffer_run {size : BitVec 64} {block : Memory (BitVec 8)}
    (allocated : env.malloc size = some block) {body : Exec GcmCode Work Unit}
    {out : Memory (BitVec 8)} {outSize : BitVec 64} {ended : Except GcmCode Unit}
    {final : Work} (ran : body ⟨Ctx.new, block, out, outSize⟩ = (ended, final)) :
    withWorkBuffer env size body out outSize = leave size ended final := by
  simp only [withWorkBuffer, allocated, ran]

/-- Encryption puts the wrapped text and its tag into the caller's buffer. -/
theorem aes256GcmEncrypt_wraps (key : GcmKey) (iv : Memory (BitVec 8))
    (succeeds : Succeeds env ivSize aad aadSize textSize)
    (nonempty : ivSize ≠ 0) (small : textSize.toNat < 2 ^ 31 - 16)
    (plain out : Memory (BitVec 8)) (outSize : BitVec 64) :
    ∃ blob freed, aes256GcmEncrypt env (some key) (some iv) ivSize aad aadSize
        (some plain) textSize (some out) (some outSize) =
          ⟨.noError, some blob, some (textSize + BitVec.ofNat 64 sizeofGcmTag),
            freed⟩ ∧
      (blob.read 0 textSize.toNat, tagAt blob textSize.toNat) =
        env.evp.gcm.wrap key (nonceOf iv) (aadBytes aad aadSize)
          (plain.read 0 textSize.toNat) := by
  rcases succeeds.malloc (textSize + BitVec.ofNat 64 sizeofGcmTag) with
    ⟨block, allocated⟩
  rcases encryptBody_run succeeds small plain ⟨Ctx.new, block, out, outSize⟩ with
    ⟨final, ran, size, box⟩
  have call : aes256GcmEncrypt env (some key) (some iv) ivSize aad aadSize
      (some plain) textSize (some out) (some outSize) =
        withWorkBuffer env (textSize + BitVec.ofNat 64 sizeofGcmTag)
          (encryptBody env key iv ivSize aad aadSize plain textSize) out outSize :=
    if_neg nonempty
  have done := call.trans (withWorkBuffer_run allocated ran)
  rw [leave, size] at done
  exact ⟨final.out, _, done, box⟩

/-- Decryption returns without error, with a text in the caller's buffer, exactly
when the box unwraps to that text. -/
theorem aes256GcmDecrypt_unwraps (key : GcmKey) (iv : Memory (BitVec 8))
    (succeeds : Succeeds env ivSize aad aadSize textSize) (nonempty : ivSize ≠ 0)
    (small : textSize.toNat < 2 ^ 31) (cipher out : Memory (BitVec 8))
    (outSize : BitVec 64) {cipherSize : BitVec 64}
    (size : cipherSize - BitVec.ofNat 64 sizeofGcmTag = textSize) :
    ∃ code text size freed, aes256GcmDecrypt env (some key) (some iv) ivSize aad
        aadSize (some cipher) cipherSize (some out) (some outSize) =
          ⟨code, some text, some size, freed⟩ ∧
      (∀ plain, code = .noError ∧ text.read 0 textSize.toNat = plain ↔
        env.evp.gcm.unwrap key (nonceOf iv) (aadBytes aad aadSize)
            (cipher.read 0 textSize.toNat, tagAt cipher textSize.toNat) =
          some plain) ∧
      (code = .noError → size = textSize) := by
  rcases succeeds.malloc (cipherSize - BitVec.ofNat 64 sizeofGcmTag) with
    ⟨block, allocated⟩
  rcases decryptBody_run succeeds small cipher size ⟨Ctx.new, block, out, outSize⟩
    with ⟨ended, final, ran, released, decision, announced⟩
  have call : aes256GcmDecrypt env (some key) (some iv) ivSize aad aadSize
      (some cipher) cipherSize (some out) (some outSize) =
        withWorkBuffer env (cipherSize - BitVec.ofNat 64 sizeofGcmTag)
          (decryptBody env key iv ivSize aad aadSize cipher cipherSize) out outSize :=
    if_neg nonempty
  refine ⟨_, final.out, _, _, call.trans (withWorkBuffer_run allocated ran), ?_,
    announced⟩
  intro plain
  rw [decision, released, Aead.unwrap, Option.ite_none_right_eq_some,
    Option.some_inj]

section Inverse

variable {evp : Evp} {malloc malloc' : BitVec 64 → Option (Memory (BitVec 8))}
variable {iv' : Memory (BitVec 8)} {aad' : Option (Memory (BitVec 8))}

/-- A text that is encrypted and decrypted again, with the same nonce. -/
theorem decrypt_of_encrypt (key : GcmKey) (sameNonce : nonceOf iv' = nonceOf iv)
    (sameAad : aadBytes aad' aadSize = aadBytes aad aadSize) (nonempty : ivSize ≠ 0)
    (small : textSize.toNat < 2 ^ 31 - 16)
    (succeeds : Succeeds ⟨evp, malloc⟩ ivSize aad aadSize textSize)
    (succeeds' : Succeeds ⟨evp, malloc'⟩ ivSize aad' aadSize textSize)
    (plain out out' : Memory (BitVec 8)) (outSize outSize' : BitVec 64) :
    ∃ blob freed text freed',
      aes256GcmEncrypt ⟨evp, malloc⟩ (some key) (some iv) ivSize aad aadSize
          (some plain) textSize (some out) (some outSize) =
        ⟨.noError, some blob, some (textSize + 16), freed⟩ ∧
      aes256GcmDecrypt ⟨evp, malloc'⟩ (some key) (some iv') ivSize aad' aadSize
          (some blob) (textSize + 16) (some out') (some outSize') =
        ⟨.noError, some text, some textSize, freed'⟩ ∧
      text.read 0 textSize.toNat = plain.read 0 textSize.toNat := by
  rcases aes256GcmEncrypt_wraps key iv succeeds nonempty small plain out outSize
    with ⟨blob, freed, encrypted, box⟩
  have size : textSize + BitVec.ofNat 64 sizeofGcmTag -
      BitVec.ofNat 64 sizeofGcmTag = textSize := BitVec.add_sub_cancel _ _
  have narrow : textSize.toNat < 2 ^ 31 := by omega
  rcases aes256GcmDecrypt_unwraps key iv' succeeds' nonempty narrow blob out'
    outSize' size with ⟨code, text, size, freed', decrypted, accepts, announced⟩
  rw [← sameNonce, ← sameAad] at box
  have opened := (evp.gcm.unwrap_eq_some_iff _ _ _ _ _).mpr box
  obtain ⟨success, released⟩ := (accepts _).mpr opened
  rw [success, announced success] at decrypted
  exact ⟨blob, freed, text, freed', encrypted, decrypted, released⟩

/-- A blob that is decrypted and encrypted again, with the same nonce. -/
theorem encrypt_of_decrypt {key : GcmKey} (sameNonce : nonceOf iv' = nonceOf iv)
    (sameAad : aadBytes aad' aadSize = aadBytes aad aadSize) (nonempty : ivSize ≠ 0)
    {cipherSize : BitVec 64} (least : 16 ≤ cipherSize.toNat)
    (small : cipherSize.toNat < 2 ^ 31)
    (succeeds : Succeeds ⟨evp, malloc⟩ ivSize aad aadSize (cipherSize - 16))
    (succeeds' : Succeeds ⟨evp, malloc'⟩ ivSize aad' aadSize (cipherSize - 16))
    {cipher out text : Memory (BitVec 8)} {outSize textSize : BitVec 64}
    {freed : Option (Memory (BitVec 8))}
    (decrypted : aes256GcmDecrypt ⟨evp, malloc'⟩ (some key) (some iv') ivSize aad' aadSize
        (some cipher) cipherSize (some out) (some outSize) =
      ⟨.noError, some text, some textSize, freed⟩)
    (out' : Memory (BitVec 8)) (outSize' : BitVec 64) :
    ∃ blob freed',
      aes256GcmEncrypt ⟨evp, malloc⟩ (some key) (some iv) ivSize aad aadSize
          (some text) textSize (some out') (some outSize') =
        ⟨.noError, some blob, some cipherSize, freed'⟩ ∧
      blob.read 0 cipherSize.toNat = cipher.read 0 cipherSize.toNat := by
  have sixteen : sizeofGcmTag = 16 := rfl
  have fits : (16 : BitVec 64) ≤ cipherSize := least
  have size : (cipherSize - 16).toNat = cipherSize.toNat - 16 :=
    BitVec.toNat_sub_of_le fits
  rcases aes256GcmDecrypt_unwraps key iv' succeeds' nonempty (by omega) cipher out
    outSize rfl with ⟨code, text', textSize', freed', decrypted', accepts, announced⟩
  rw [decrypted] at decrypted'
  cases decrypted'
  rw [announced rfl]
  have box := (evp.gcm.unwrap_eq_some_iff _ _ _ _ _).mp ((accepts _).mp ⟨rfl, rfl⟩)
  rcases aes256GcmEncrypt_wraps key iv succeeds nonempty (by omega) text out'
    outSize' with ⟨blob, freed', encrypted, same⟩
  rw [← sameNonce, ← sameAad, ← box] at same
  obtain ⟨front, behind⟩ := Prod.mk.inj same
  refine ⟨blob, freed', ?_, ?_⟩
  · have whole : cipherSize - 16 + BitVec.ofNat 64 sizeofGcmTag = cipherSize :=
      BitVec.sub_add_cancel _ _
    rw [whole] at encrypted
    exact encrypted
  · have parts : cipherSize.toNat = (cipherSize - 16).toNat + sizeofGcmTag := by
      omega
    have tags := congrArg Vector.toList behind
    rw [toList_tagAt, toList_tagAt] at tags
    rw [parts, Memory.read_add, Memory.read_add, Nat.zero_add, front, tags]

/-! ## The same iv and associated data -/

/-- The associated data has the same bytes at both pointers, or is null at both. -/
def SameAad (aadSize : BitVec 64) (aad aad' : Option (Memory (BitVec 8))) : Prop :=
  aad'.map (fun bytes => bytes.read 0 aadSize.toNat) =
    aad.map fun bytes => bytes.read 0 aadSize.toNat

/-- The library gets no more bytes of the associated data than there are. -/
theorem SameAad.aadBytes_eq (same : SameAad aadSize aad aad') :
    aadBytes aad' aadSize = aadBytes aad aadSize := by
  have shorter : (intOfSize aadSize).toInt.toNat ≤ aadSize.toNat := by
    have narrowed : (intOfSize aadSize).toNat ≤ aadSize.toNat := by
      rw [intOfSize, BitVec.toNat_setWidth]
      exact Nat.mod_le _ _
    have positive : (intOfSize aadSize).toInt ≤ ((intOfSize aadSize).toNat : Int) := by
      rw [BitVec.toInt_eq_toNat_cond]
      split <;> omega
    omega
  cases aad with
  | none =>
      cases aad' with
      | none => rfl
      | some bytes' => cases same
  | some bytes =>
      cases aad' with
      | none => cases same
      | some bytes' =>
          exact Memory.read_eq_of_le shorter (Option.some.inj same)

/-- Ivs that have the bytes of a nonce give the same nonce. -/
theorem nonceOf_eq_of_le (long : 12 ≤ ivSize.toNat)
    (same : iv'.read 0 ivSize.toNat = iv.read 0 ivSize.toNat) : nonceOf iv' = nonceOf iv :=
  Memory.read_eq_of_le long same

/-- Encryption through some pointers and decryption through others undo each other, in
both directions. -/
structure Inverts (env env' : Env) (key : GcmKey) (ivSize aadSize : BitVec 64)
    (iv iv' : Memory (BitVec 8)) (aad aad' : Option (Memory (BitVec 8))) : Prop where
  /-- What was encrypted is decrypted to the text. -/
  decrypts : ∀ (plain : Memory (BitVec 8)) (plainSize : BitVec 64)
      (out out' : Memory (BitVec 8)) (outSize outSize' : BitVec 64),
    plainSize.toNat < 2 ^ 31 - 16 →
    ∃ blob freed text freed',
      aes256GcmEncrypt env (some key) (some iv) ivSize aad aadSize
          (some plain) plainSize (some out) (some outSize) =
        ⟨.noError, some blob, some (plainSize + 16), freed⟩ ∧
      aes256GcmDecrypt env' (some key) (some iv') ivSize aad' aadSize
          (some blob) (plainSize + 16) (some out') (some outSize') =
        ⟨.noError, some text, some plainSize, freed'⟩ ∧
      text.read 0 plainSize.toNat = plain.read 0 plainSize.toNat
  /-- What decryption accepts is what encryption makes of the text it returned. -/
  encrypts : ∀ (cipher : Memory (BitVec 8)) (cipherSize : BitVec 64)
      (out out' text : Memory (BitVec 8)) (outSize outSize' textSize : BitVec 64)
      (freed : Option (Memory (BitVec 8))),
    16 ≤ cipherSize.toNat → cipherSize.toNat < 2 ^ 31 →
    aes256GcmDecrypt env' (some key) (some iv') ivSize aad' aadSize
        (some cipher) cipherSize (some out) (some outSize) =
      ⟨.noError, some text, some textSize, freed⟩ →
    ∃ blob freed',
      aes256GcmEncrypt env (some key) (some iv) ivSize aad aadSize
          (some text) textSize (some out') (some outSize') =
        ⟨.noError, some blob, some cipherSize, freed'⟩ ∧
      blob.read 0 cipherSize.toNat = cipher.read 0 cipherSize.toNat

/-- Two nonces never encrypt all texts alike. -/
def Evp.NoncesMatter (evp : Evp) : Prop :=
  ∀ (key : GcmKey) (nonce nonce' : List (BitVec 8)),
    nonce.length = defaultIvLength → nonce'.length = defaultIvLength → nonce ≠ nonce' →
      ∃ text, text.length < 2 ^ 31 - 16 ∧
        evp.gcm.encrypt key nonce text ≠ evp.gcm.encrypt key nonce' text

theorem inverts_of_nonce_eq (key : GcmKey) (sameNonce : nonceOf iv' = nonceOf iv)
    (sameAad : aadBytes aad' aadSize = aadBytes aad aadSize) (nonempty : ivSize ≠ 0)
    (succeeds : ∀ textSize : BitVec 64, textSize.toNat < 2 ^ 31 →
      Succeeds ⟨evp, malloc⟩ ivSize aad aadSize textSize)
    (succeeds' : ∀ textSize : BitVec 64, textSize.toNat < 2 ^ 31 →
      Succeeds ⟨evp, malloc'⟩ ivSize aad' aadSize textSize) :
    Inverts ⟨evp, malloc⟩ ⟨evp, malloc'⟩ key ivSize aadSize iv iv' aad aad' := by
  constructor
  · intro plain plainSize out out' outSize outSize' small
    exact decrypt_of_encrypt key sameNonce sameAad nonempty small (succeeds _ (by omega))
      (succeeds' _ (by omega)) plain out out' outSize outSize'
  · intro cipher cipherSize out out' text outSize outSize' textSize freed least small decrypted
    have fits : (16 : BitVec 64) ≤ cipherSize := least
    have shorter : (cipherSize - 16).toNat < 2 ^ 31 := by
      rw [BitVec.toNat_sub_of_le fits]
      omega
    exact encrypt_of_decrypt sameNonce sameAad nonempty least small (succeeds _ shorter)
      (succeeds' _ shorter) decrypted out' outSize'

/-- A round trip shows that both nonces encrypt every text alike. -/
theorem Inverts.encrypt_eq {key : GcmKey}
    (inverts : Inverts ⟨evp, malloc⟩ ⟨evp, malloc'⟩ key ivSize aadSize iv iv' aad aad')
    (nonempty : ivSize ≠ 0)
    (succeeds : ∀ textSize : BitVec 64, textSize.toNat < 2 ^ 31 →
      Succeeds ⟨evp, malloc⟩ ivSize aad aadSize textSize)
    (succeeds' : ∀ textSize : BitVec 64, textSize.toNat < 2 ^ 31 →
      Succeeds ⟨evp, malloc'⟩ ivSize aad' aadSize textSize)
    {text : List (BitVec 8)} (small : text.length < 2 ^ 31 - 16) :
    evp.gcm.encrypt key (nonceOf iv) text = evp.gcm.encrypt key (nonceOf iv') text := by
  let textSize := BitVec.ofNat 64 text.length
  have size : textSize.toNat = text.length := by
    rw [BitVec.toNat_ofNat, Nat.mod_eq_of_lt (by omega)]
  have narrow : textSize.toNat < 2 ^ 31 - 16 := by omega
  have plain : (bytesMemory text).read 0 textSize.toNat = text := by
    rw [size]
    exact Memory.read_ofList
  rcases inverts.decrypts (bytesMemory text) textSize (fun _ => 0) (fun _ => 0) 0 0 narrow with
    ⟨blob, freed, text', freed', encrypted, decrypted, same⟩
  rcases aes256GcmEncrypt_wraps key iv (succeeds textSize (by omega)) nonempty narrow
    (bytesMemory text) (fun _ => 0) 0 with ⟨blob', _, encrypted', box⟩
  rw [encrypted] at encrypted'
  cases encrypted'
  have back : textSize + 16 - BitVec.ofNat 64 sizeofGcmTag = textSize :=
    BitVec.add_sub_cancel _ _
  rcases aes256GcmDecrypt_unwraps key iv' (succeeds' textSize (by omega)) nonempty (by omega)
    blob (fun _ => 0) 0 back with ⟨_, _, _, _, decrypted', accepts, _⟩
  rw [decrypted] at decrypted'
  cases decrypted'
  have opened := (evp.gcm.unwrap_eq_some_iff _ _ _ _ _).mp ((accepts _).mp ⟨rfl, same⟩)
  rw [box, plain] at opened
  exact congrArg Prod.fst opened

/-- Another byte behind a short iv makes another nonce. -/
theorem exists_nonce_ne (iv : Memory (BitVec 8)) (short : ivSize.toNat < 12) :
    ∃ iv' : Memory (BitVec 8), iv'.read 0 ivSize.toNat = iv.read 0 ivSize.toNat ∧
      nonceOf iv ≠ nonceOf iv' := by
  refine ⟨fun i => if i = ivSize.toNat then iv i + 1 else iv i, ?_, fun same => ?_⟩
  · refine Memory.read_congr fun i _ inside => ?_
    exact if_neg (by omega)
  · have cell := congrArg (fun nonce => nonce[ivSize.toNat]?) same
    simp only [nonceOf, Memory.read, defaultIvLength, List.getElem?_map,
      List.getElem?_range short, Option.map_some, Nat.zero_add, if_true,
      Option.some.injEq] at cell
    have distinct : ∀ byte : BitVec 8, byte ≠ byte + 1 := by decide
    exact distinct _ cell

end Inverse

/-- Encryption and decryption under the same key, iv and associated data undo each other
exactly if the iv has at least the twelve bytes that are read of it: behind a shorter one
the nonce depends on bytes that are not its own. -/
theorem aes256Gcm_inverse_iff (evp : Evp) (malloc malloc' : BitVec 64 →
      Option (Memory (BitVec 8))) (key : GcmKey) (iv : Memory (BitVec 8))
    (ivSize : BitVec 64) (aad : Option (Memory (BitVec 8))) (aadSize : BitVec 64)
    (nonempty : ivSize ≠ 0) (matters : evp.NoncesMatter)
    (succeeds : ∀ textSize : BitVec 64, textSize.toNat < 2 ^ 31 →
      Succeeds ⟨evp, malloc⟩ ivSize aad aadSize textSize)
    (succeeds' : ∀ textSize : BitVec 64, textSize.toNat < 2 ^ 31 →
      Succeeds ⟨evp, malloc'⟩ ivSize aad aadSize textSize) :
    (∀ iv' aad', iv'.read 0 ivSize.toNat = iv.read 0 ivSize.toNat → SameAad aadSize aad aad' →
      Inverts ⟨evp, malloc⟩ ⟨evp, malloc'⟩ key ivSize aadSize iv iv' aad aad') ↔
        12 ≤ ivSize.toNat := by
  constructor
  · intro always
    by_contra short
    rcases exists_nonce_ne iv (Nat.lt_of_not_le short) with ⟨iv', same, differ⟩
    have inverts := always iv' aad same rfl
    rcases matters key (nonceOf iv) (nonceOf iv') (Memory.length_read _ _ _)
      (Memory.length_read _ _ _) differ with ⟨text, small, apart⟩
    exact apart (inverts.encrypt_eq nonempty succeeds succeeds' small)
  · intro long iv' aad' same sameAad
    refine inverts_of_nonce_eq key (nonceOf_eq_of_le long same) sameAad.aadBytes_eq nonempty
      succeeds fun textSize small => ?_
    have calls := succeeds' textSize small
    refine ⟨calls.malloc, calls.ctxNew, calls.init, calls.setIvlen, fun bytes given => ?_,
      calls.update, calls.encryptFinal, calls.decryptFinal, calls.getTag, calls.setTag⟩
    cases aad with
    | none =>
        rw [given] at sameAad
        cases sameAad
    | some bytes' => exact calls.aad bytes' rfl

/-! ## An iv of one byte -/

/-- The nonces of two ivs that are one zero byte, with a zero and a one behind it. -/
def zeroNonce : List (BitVec 8) :=
  List.replicate 12 0

/-- The nonce with a one behind the byte of the iv. -/
def otherNonce : List (BitVec 8) :=
  0 :: 1 :: List.replicate 10 0

/-- The first block of the key stream of AES-256-GCM under the zero key. -/
def firstBlock (nonce : List (BitVec 8)) : List (BitVec 8) :=
  if nonce = otherNonce then
    [0xe9, 0x89, 0x80, 0xda, 0x79, 0xe0, 0x7a, 0x4b,
      0x01, 0xfd, 0x41, 0xbd, 0x2b, 0x45, 0x05, 0xdd]
  else
    [0xce, 0xa7, 0x40, 0x3d, 0x4d, 0x60, 0x6b, 0x6e,
      0x07, 0x4e, 0xc5, 0xd3, 0xba, 0xf3, 0x9d, 0x18]

/-- The tags of AES-256-GCM under the zero key for these two blocks. -/
def blockTag (nonce cipher : List (BitVec 8)) : GcmTag :=
  if nonce = otherNonce then
    if cipher = firstBlock zeroNonce then
      #v[0x51, 0x7f, 0xd6, 0x8f, 0x11, 0xdd, 0x6c, 0x4a,
        0x4e, 0xd6, 0x5a, 0x43, 0xce, 0xb6, 0x14, 0x3b]
    else
      #v[0x32, 0xd1, 0x48, 0x66, 0xc7, 0xbb, 0x09, 0xa6,
        0x17, 0xc0, 0xc6, 0x50, 0x4d, 0xf6, 0xb7, 0x93]
  else
    zeroBlockTag

/-- The key stream: behind the first block it is the nonce here. -/
def blockStream (nonce : List (BitVec 8)) (i : Nat) : BitVec 8 :=
  if i < 16 then (firstBlock nonce).getD i 0 else nonce.getD (i - 16) 0

/-- A library that is AES-256-GCM for one zero block under the zero key, without
associated data, and the two nonces. -/
def twoNoncesEvp : Evp where
  gcm := Aead.ofKeystream (fun _ => blockStream) fun _ nonce _ => blockTag nonce
  accepts _ := true

/-- The key stream shows the nonce. -/
theorem blockStream_add (nonce : List (BitVec 8)) {i : Nat} (inside : i < nonce.length) :
    blockStream nonce (16 + i) = nonce[i] := by
  rw [blockStream, if_neg (by omega), Nat.add_sub_cancel_left, List.getD_eq_getElem?_getD,
    List.getElem?_eq_getElem inside, Option.getD_some]

/-- Twenty-eight zero bytes are encrypted to the key stream, which tells the nonce. -/
theorem blockStream_inj {nonce nonce' : List (BitVec 8)} (length : nonce.length = 12)
    (length' : nonce'.length = 12)
    (same : xorStream (blockStream nonce) (List.replicate 28 0) =
      xorStream (blockStream nonce') (List.replicate 28 0)) : nonce = nonce' := by
  refine List.ext_getElem (length.trans length'.symm) fun i inside inside' => ?_
  have zero : (List.replicate 28 (0 : BitVec 8))[16 + i]? = some 0 := by
    rw [List.getElem?_replicate, if_pos (by omega)]
  have cell : (xorStream (blockStream nonce) (List.replicate 28 0))[16 + i]? =
      (xorStream (blockStream nonce') (List.replicate 28 0))[16 + i]? := by
    rw [same]
  rw [getElem?_xorStream, getElem?_xorStream, zero, Option.map_some, Option.map_some,
    Option.some.injEq, blockStream_add nonce inside, blockStream_add nonce' inside'] at cell
  exact (BitVec.zero_xor.symm.trans cell).trans BitVec.zero_xor

theorem twoNoncesEvp_encrypt (key : GcmKey) (nonce : List (BitVec 8)) :
    twoNoncesEvp.gcm.encrypt key nonce = xorStream (blockStream nonce) :=
  rfl

theorem twoNoncesEvp_matters : twoNoncesEvp.NoncesMatter := by
  intro key nonce nonce' length length' differ
  refine ⟨List.replicate 28 0, by decide, ?_⟩
  rw [twoNoncesEvp_encrypt, twoNoncesEvp_encrypt]
  exact mt (blockStream_inj length length') differ

theorem twoNoncesEvp_succeeds (ivSize textSize : BitVec 64) :
    Succeeds ⟨twoNoncesEvp, zeroMalloc⟩ ivSize none 0 textSize :=
  ⟨fun _ => ⟨_, rfl⟩, rfl, rfl, rfl, fun _ _ => rfl, rfl, rfl, rfl, rfl, rfl⟩

/-- The zero block under an iv of twelve zeroes, through two pointers to it. -/
theorem aes256Gcm_inverse_twelve :
    ∃ blob freed text freed',
      aes256GcmEncrypt ⟨twoNoncesEvp, zeroMalloc⟩ (some (Vector.replicate 32 0))
          (some fun _ => 0) 12 none 0 (some fun _ => 0) 16 (some fun _ => 0) (some 0) =
        ⟨.noError, some blob, some 32, freed⟩ ∧
      aes256GcmDecrypt ⟨twoNoncesEvp, zeroMalloc⟩ (some (Vector.replicate 32 0))
          (some fun i => if i = 12 then 1 else 0) 12 none 0 (some blob) 32
          (some fun _ => 0) (some 0) =
        ⟨.noError, some text, some 16, freed'⟩ ∧
      text.read 0 16 = List.replicate 16 0 := by
  have inverse := (aes256Gcm_inverse_iff twoNoncesEvp zeroMalloc zeroMalloc
    (Vector.replicate 32 0) (fun _ => 0) 12 none 0 (by decide) twoNoncesEvp_matters
    (fun _ _ => twoNoncesEvp_succeeds _ _) (fun _ _ => twoNoncesEvp_succeeds _ _)).mpr
      (by decide)
  have inverts := inverse (fun i => if i = 12 then 1 else 0) none (by decide) rfl
  rcases inverts.decrypts (fun _ => 0) 16 (fun _ => 0) (fun _ => 0) 0 0 (by decide) with
    ⟨blob, freed, text, freed', encrypted, decrypted, same⟩
  exact ⟨blob, freed, text, freed', encrypted, decrypted, same⟩

/-- A block that is encrypted under an iv of one zero byte is refused when it is decrypted
under the same iv with another byte behind it. -/
theorem aes256Gcm_inverse_short :
    ¬ ∀ iv' : Memory (BitVec 8), ∀ aad', iv'.read 0 1 = Memory.read (fun _ => 0) 0 1 →
      SameAad 0 none aad' →
        Inverts ⟨twoNoncesEvp, zeroMalloc⟩ ⟨twoNoncesEvp, zeroMalloc⟩ (Vector.replicate 32 0)
          1 0 (fun _ => 0) iv' none aad' := by
  intro always
  have inverts := always (fun i => if i = 1 then 1 else 0) none (by decide) rfl
  rcases inverts.decrypts (fun _ => 0) 16 (fun _ => 0) (fun _ => 0) 0 0 (by decide) with
    ⟨blob, freed, text, freed', encrypted, decrypted, _⟩
  have out : (aes256GcmEncrypt ⟨twoNoncesEvp, zeroMalloc⟩ (some (Vector.replicate 32 0))
      (some fun _ => 0) 1 none 0 (some fun _ => 0) 16 (some fun _ => 0) (some 0)).out =
        some blob := congrArg Outcome.out encrypted
  have refused : (aes256GcmDecrypt ⟨twoNoncesEvp, zeroMalloc⟩ (some (Vector.replicate 32 0))
      (some fun i => if i = 1 then 1 else 0) 1 none 0
      (aes256GcmEncrypt ⟨twoNoncesEvp, zeroMalloc⟩ (some (Vector.replicate 32 0))
        (some fun _ => 0) 1 none 0 (some fun _ => 0) 16 (some fun _ => 0) (some 0)).out 32
      (some fun _ => 0) (some 0)).code = .errAuthFailed := by decide +kernel
  rw [out] at refused
  have accepted := congrArg Outcome.code decrypted
  rw [show (16 : BitVec 64) + 16 = 32 from rfl, refused] at accepted
  cases accepted

end SandPlatform.HwkeyCrypt
