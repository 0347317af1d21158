import Mathlib.Algebra.Group.Nat.Defs
import Mathlib.Tactic.Common

/-!
# Authenticated encryption with associated data

An encryption that keeps the length of the text, and a tag over the associated
data and the ciphertext.  Wrapping returns the ciphertext with its tag;
unwrapping checks the tag before it decrypts, so it accepts exactly what wrapping
produces.
-/

namespace SandPlatform.Foundation

universe u v w x

/-- Encryption and decryption that undo each other under the same key and nonce,
and a tag.  `β` is the type of the symbols of a text. -/
structure Aead (κ : Type u) (ν : Type v) (τ : Type w) (β : Type x) where
  encrypt : κ → ν → List β → List β
  decrypt : κ → ν → List β → List β
  authenticate : κ → ν → List β → List β → τ
  decrypt_encrypt : ∀ key nonce plain,
    decrypt key nonce (encrypt key nonce plain) = plain
  encrypt_decrypt : ∀ key nonce cipher,
    encrypt key nonce (decrypt key nonce cipher) = cipher
  length_encrypt : ∀ key nonce plain,
    (encrypt key nonce plain).length = plain.length

namespace Aead

variable {κ : Type u} {ν : Type v} {τ : Type w} {β : Type x}
variable (aead : Aead κ ν τ β)

@[simp]
theorem length_encrypt_eq (key : κ) (nonce : ν) (plain : List β) :
    (aead.encrypt key nonce plain).length = plain.length :=
  aead.length_encrypt key nonce plain

@[simp]
theorem length_decrypt (key : κ) (nonce : ν) (cipher : List β) :
    (aead.decrypt key nonce cipher).length = cipher.length := by
  rw [← aead.length_encrypt key nonce, aead.encrypt_decrypt]

/-- The ciphertext and its tag. -/
def wrap (key : κ) (nonce : ν) (aad plain : List β) : List β × τ :=
  let cipher := aead.encrypt key nonce plain
  (cipher, aead.authenticate key nonce aad cipher)

/-- The plaintext, if the tag is the right one. -/
def unwrap [DecidableEq τ] (key : κ) (nonce : ν) (aad : List β)
    (box : List β × τ) : Option (List β) :=
  if box.2 = aead.authenticate key nonce aad box.1 then
    some (aead.decrypt key nonce box.1)
  else
    none

/-- A box unwraps to a text exactly when the text wraps to the box. -/
theorem unwrap_eq_some_iff [DecidableEq τ] (key : κ) (nonce : ν)
    (aad plain : List β) (box : List β × τ) :
    aead.unwrap key nonce aad box = some plain ↔
      box = aead.wrap key nonce aad plain := by
  rcases box with ⟨cipher, tag⟩
  constructor
  · intro opened
    by_cases valid : tag = aead.authenticate key nonce aad cipher
    · have same : aead.decrypt key nonce cipher = plain :=
        Option.some.inj ((if_pos valid).symm.trans opened)
      rw [wrap, ← same, aead.encrypt_decrypt, valid]
    · have refused : aead.unwrap key nonce aad (cipher, tag) = none := if_neg valid
      rw [refused] at opened
      cases opened
  · intro wrapped
    cases wrapped
    have opened : aead.unwrap key nonce aad (aead.wrap key nonce aad plain) =
        some (aead.decrypt key nonce (aead.encrypt key nonce plain)) := if_pos rfl
    rw [wrap] at opened
    rw [opened, aead.decrypt_encrypt]

end Aead

/-! ## Encryption by a key stream -/

/-- Combine every byte of a text with the byte of the key stream at its place. -/
def xorStream (keystream : Nat → BitVec 8) (text : List (BitVec 8)) :
    List (BitVec 8) :=
  text.mapIdx fun i byte => byte ^^^ keystream i

theorem length_xorStream (keystream : Nat → BitVec 8) (text : List (BitVec 8)) :
    (xorStream keystream text).length = text.length := by
  simp [xorStream]

theorem getElem?_xorStream (keystream : Nat → BitVec 8) (text : List (BitVec 8)) (i : Nat) :
    (xorStream keystream text)[i]? = text[i]?.map fun byte => byte ^^^ keystream i := by
  rw [xorStream, List.getElem?_mapIdx]

/-- The same key stream twice gives the text back. -/
theorem xorStream_xorStream (keystream : Nat → BitVec 8)
    (text : List (BitVec 8)) :
    xorStream keystream (xorStream keystream text) = text := by
  have cancel (i : Nat) (byte : BitVec 8) :
      (byte ^^^ keystream i) ^^^ keystream i = byte := by
    rw [BitVec.xor_assoc, BitVec.xor_self, BitVec.xor_zero]
  rw [xorStream, xorStream, List.mapIdx_mapIdx]
  refine List.ext_getElem (List.length_mapIdx) ?_
  intro i inside inside'
  rw [List.getElem_mapIdx]
  exact cancel i _

/-- Authenticated encryption by a key stream. -/
def Aead.ofKeystream {κ : Type u} {ν : Type v} {τ : Type w}
    (keystream : κ → ν → Nat → BitVec 8)
    (authenticate : κ → ν → List (BitVec 8) → List (BitVec 8) → τ) :
    Aead κ ν τ (BitVec 8) where
  encrypt key nonce := xorStream (keystream key nonce)
  decrypt key nonce := xorStream (keystream key nonce)
  authenticate := authenticate
  decrypt_encrypt key nonce := xorStream_xorStream (keystream key nonce)
  encrypt_decrypt key nonce := xorStream_xorStream (keystream key nonce)
  length_encrypt key nonce := length_xorStream (keystream key nonce)

end SandPlatform.Foundation
