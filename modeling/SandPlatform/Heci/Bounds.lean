import SandPlatform.Heci.Keybox

/-!
# Results do not depend on the loop bounds

Every loop of the driver takes a bound on its iterations.  A run that returns
within some bound returns the same result in the same state within every larger
one, so "returns" needs no mention of the bound.
-/

namespace SandPlatform.Heci

open SandPlatform.Foundation
open SandPlatform.Hardware
open SandPlatform.Kernel

universe u

variable {σ : Type u} (device : Device σ)

theorem pollLoop_extends (predicate : Option (Exec Stop (Hw σ) Int))
    (start timeout : BitVec 32) {small large : Nat} (le : small ≤ large) :
    Exec.Extends (pollLoop device predicate start timeout small)
      (pollLoop device predicate start timeout large) := by
  induction small generalizing large with
  | zero => exact Exec.extends_stop _ _
  | succ small ih =>
      cases large with
      | zero => exact absurd le (Nat.not_succ_le_zero small)
      | succ large =>
          have smaller := ih (Nat.le_of_succ_le_succ le)
          refine Exec.extends_bind fun res => ?_
          apply Exec.extends_ite
          · exact Exec.Extends.refl _
          · apply Exec.extends_ite
            · exact smaller
            · refine Exec.extends_bind fun now => ?_
              apply Exec.extends_ite
              · exact Exec.Extends.refl _
              · exact smaller

theorem waitEvent_extends (timeout : BitVec 32)
    (predicate : Option (Exec Stop (Hw σ) Int)) {small large : Nat}
    (le : small ≤ large) :
    Exec.Extends (waitEvent device small timeout predicate)
      (waitEvent device large timeout predicate) := by
  refine Exec.extends_bind fun _ => ?_
  refine Exec.extends_bind fun start => ?_
  exact pollLoop_extends device predicate start _ le

theorem sendLoop_extends (base : Nat) (message : Message) (length : Nat)
    (hostAddress devAddr : BitVec 8) (maxBuffer : Nat)
    {small large rounds rounds' : Nat} (le : small ≤ large)
    (roundsLe : rounds ≤ rounds') (leftSize writeSize : Nat) :
    Exec.Extends
      (sendLoop device small base message length hostAddress devAddr maxBuffer
        rounds leftSize writeSize)
      (sendLoop device large base message length hostAddress devAddr maxBuffer
        rounds' leftSize writeSize) := by
  induction rounds generalizing rounds' leftSize writeSize with
  | zero => exact Exec.extends_stop _ _
  | succ rounds ih =>
      cases rounds' with
      | zero => exact absurd roundsLe (Nat.not_succ_le_zero rounds)
      | succ rounds' =>
          have smaller := ih (Nat.le_of_succ_le_succ roundsLe)
          rw [sendLoop, sendLoop]
          apply Exec.extends_ite
          · exact Exec.Extends.refl _
          · refine (waitEvent_extends device _ _ le).bind fun ready => ?_
            apply Exec.extends_ite
            · exact Exec.Extends.refl _
            · refine Exec.extends_bind fun _ => ?_
              apply Exec.extends_ite
              · refine (waitEvent_extends device _ _ le).bind fun raised => ?_
                apply Exec.extends_ite
                · exact Exec.Extends.refl _
                · exact smaller _ _
              · exact smaller _ _

theorem heciSendImpl_extends (base : Nat) (message : Option Message)
    (length : Nat) (hostAddress devAddr : BitVec 8) {small large : Nat}
    (le : small ≤ large) :
    Exec.Extends
      (heciSendImpl device small base message length hostAddress devAddr)
      (heciSendImpl device large base message length hostAddress devAddr) := by
  cases message with
  | none => exact Exec.Extends.refl _
  | some message =>
      apply Exec.extends_ite
      · exact Exec.Extends.refl _
      · refine Exec.extends_bind fun hcr => ?_
        refine Exec.extends_bind fun _ => ?_
        exact sendLoop_extends device _ _ _ _ _ _ le le _ _

theorem receiveWords_extends (base bufSize : Nat) {small large : Nat}
    (le : small ≤ large) (left index : Nat) (message : Option Message) :
    Exec.Extends (receiveWords device small base bufSize left index message)
      (receiveWords device large base bufSize left index message) := by
  induction left generalizing index message with
  | zero => exact Exec.Extends.refl _
  | succ left ih =>
      refine (waitEvent_extends device _ _ le).bind fun ready => ?_
      apply Exec.extends_ite
      · exact Exec.Extends.refl _
      · refine Exec.extends_bind fun value => ?_
        refine Exec.extends_bind fun next => ?_
        exact ih _ _

theorem receiveLoop_extends (base bufSize : Nat)
    {small large rounds rounds' : Nat} (le : small ≤ large)
    (roundsLe : rounds ≤ rounds') (message : Option Message)
    (length : Option Nat) :
    Exec.Extends (receiveLoop device small base bufSize rounds message length)
      (receiveLoop device large base bufSize rounds' message length) := by
  induction rounds generalizing rounds' message length with
  | zero => exact Exec.extends_stop _ _
  | succ rounds ih =>
      cases rounds' with
      | zero => exact absurd roundsLe (Nat.not_succ_le_zero rounds)
      | succ rounds' =>
          rw [receiveLoop, receiveLoop]
          refine Exec.extends_bind fun hcr => ?_
          refine Exec.extends_bind fun _ => ?_
          refine (waitEvent_extends device _ _ le).bind fun ready => ?_
          apply Exec.extends_ite
          · exact Exec.Extends.refl _
          · refine Exec.extends_bind fun head => ?_
            refine (receiveWords_extends device _ _ le _ _ _).bind fun words => ?_
            apply Exec.extends_ite
            · refine Exec.extends_bind fun status => ?_
              refine Exec.extends_bind fun _ => ?_
              apply Exec.extends_ite
              · exact Exec.Extends.refl _
              · exact ih (Nat.le_of_succ_le_succ roundsLe) _ _
            · exact Exec.Extends.refl _

theorem heciSendwAck_extends (message : Message) (length recLength : Nat)
    (hostAddress secAddress : BitVec 8) {small large : Nat}
    (le : small ≤ large) :
    Exec.Extends
      (heciSendwAck device small message length recLength hostAddress secAddress)
      (heciSendwAck device large message length recLength hostAddress
        secAddress) := by
  refine Exec.extends_bind fun base => ?_
  apply Exec.extends_ite
  · exact Exec.Extends.refl _
  · refine (heciSendImpl_extends device _ _ _ _ _ le).bind fun status => ?_
    apply Exec.extends_ite
    · exact Exec.Extends.refl _
    · refine (receiveLoop_extends device _ _ le le _ _).bind fun received => ?_
      exact Exec.Extends.refl _

theorem attkbExchange_extends (offset size : Nat) {small large : Nat}
    (le : small ≤ large) :
    Exec.Extends (attkbExchange device small offset size)
      (attkbExchange device large offset size) :=
  ((heciSendwAck_extends device _ _ _ _ _ le).zoom _ _).bind
    fun _ => Exec.Extends.refl _

theorem chunkLoop_extends (attkbSize : Nat) {small large rounds rounds' : Nat}
    (le : small ≤ large) (roundsLe : rounds ≤ rounds')
    (offset remaining : Nat) :
    Exec.Extends (chunkLoop device small attkbSize rounds offset remaining)
      (chunkLoop device large attkbSize rounds' offset remaining) := by
  induction rounds generalizing rounds' offset remaining with
  | zero => exact Exec.extends_stop _ _
  | succ rounds ih =>
      cases rounds' with
      | zero => exact absurd roundsLe (Nat.not_succ_le_zero rounds)
      | succ rounds' =>
          rw [chunkLoop, chunkLoop]
          apply Exec.extends_ite
          · exact Exec.Extends.refl _
          · refine (attkbExchange_extends device _ _ le).bind fun answer => ?_
            apply Exec.extends_ite
            · exact Exec.Extends.refl _
            · apply Exec.extends_ite
              · exact Exec.Extends.refl _
              · refine Exec.extends_bind fun _ => ?_
                exact ih (Nat.le_of_succ_le_succ roundsLe) _ _

theorem getAttkbSize_extends {small large : Nat} (le : small ≤ large) :
    Exec.Extends (getAttkbSize device small) (getAttkbSize device large) :=
  (attkbExchange_extends device 0 0 le).bind fun _ => Exec.Extends.refl _

/-- A larger bound never changes what `get_attkb` returned or did. -/
theorem getAttkb_extends (attkbIsNull : Bool) {small large : Nat}
    (le : small ≤ large) :
    Exec.Extends (getAttkb device small attkbIsNull)
      (getAttkb device large attkbIsNull) := by
  apply Exec.extends_ite
  · exact Exec.Extends.refl _
  · refine (getAttkbSize_extends device le).bind fun attkbSize => ?_
    apply Exec.extends_ite
    · exact Exec.Extends.refl _
    · exact chunkLoop_extends device attkbSize le le _ _

/-! ## Results that do not depend on the bound -/

section Unique

variable {device} {bound bound' : Nat} {download after after' : Download σ}

theorem attkbExchange_unique {offset size : Nat} {answer answer' : Int × Message}
    (returned : attkbExchange device bound offset size download = (.ok answer, after))
    (returned' : attkbExchange device bound' offset size download =
      (.ok answer', after')) : answer = answer' ∧ after = after' :=
  Exec.unique_of_extends (fun _ _ le => attkbExchange_extends device offset size le)
    returned returned'

theorem getAttkbSize_unique {size size' : Nat}
    (returned : getAttkbSize device bound download = (.ok size, after))
    (returned' : getAttkbSize device bound' download = (.ok size', after')) :
    size = size' ∧ after = after' :=
  Exec.unique_of_extends (fun _ _ le => getAttkbSize_extends device le) returned returned'

end Unique

end SandPlatform.Heci
