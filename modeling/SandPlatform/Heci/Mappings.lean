import SandPlatform.Heci.Accesses
import SandPlatform.Heci.Mailbox
import SandPlatform.Heci.Progress

/-!
# Mappings of the register window

Every exchange maps the register window anew, and no routine of the driver gives
a mapping back.  The mappings in the kernel address space stay bounded over a
sequence of calls exactly when the calls stop obtaining any.
-/

namespace SandPlatform.Heci

open SandPlatform.Foundation
open SandPlatform.Hardware
open SandPlatform.Kernel

universe u

/-! ## Counting mappings -/

/-- A mapping that was obtained. -/
def isMapping : Access → Bool
  | .map _ (some _) => true
  | _ => false

/-- The device mappings in the kernel address space.  Each one obtained is still
there, since the driver has no access that releases one. -/
def liveMappings (log : List Access) : Nat :=
  log.countP isMapping

@[simp]
theorem liveMappings_map_some (physical virtual : Nat) (log : List Access) :
    liveMappings (.map physical (some virtual) :: log) = liveMappings log + 1 :=
  List.countP_cons_of_pos rfl

theorem liveMappings_cons_le (access : Access) (log : List Access) :
    liveMappings log ≤ liveMappings (access :: log) :=
  (List.sublist_cons_self access log).countP_le

variable {σ : Type u} (device : Device σ)

/-- So many mappings are there. -/
def AtLeast (least : Nat) (hw : Hw σ) : Prop :=
  least ≤ liveMappings hw.log

/-- No access takes a mapping away. -/
theorem atLeast_kept (least : Nat) : KeptByAccesses device (AtLeast least) where
  read _ _ _ hw many := Nat.le_trans many (liveMappings_cons_le _ hw.log)
  write _ _ _ _ hw many := Nat.le_trans many (liveMappings_cons_le _ hw.log)
  map _ hw many := Nat.le_trans many (liveMappings_cons_le _ hw.log)
  store message _ _ hw many := by
    cases message with
    | none => exact many
    | some buffer => exact Nat.le_trans many (liveMappings_cons_le _ hw.log)

/-! ## The mapping of an exchange -/

/-- `heci_get_base_addr` up to the mapping: the page of the register window. -/
def heciProbe : Exec Stop (Hw σ) Nat := do
  let bar ← heciPciRead32 device heciMbar0
  let val := bar &&& 0xFFFFFFF0
  heciPciWrite32 device heciMbar0 0xFFFFFFFF
  let _ ← heciPciRead32 device heciMbar0
  heciPciWrite32 device heciMbar0 val
  let restored ← heciPciRead32 device heciMbar0
  let u32HeciBase := restored &&& 0xFFFFFFF0
  let command ← heciPciRead8 device pciCommandOffset
  heciPciEnable device command
  pure u32HeciBase.toNat

/-- The answer to the mapping request that `heci_get_base_addr` makes. -/
def grantedMapping (hw : Hw σ) : Option Nat :=
  match heciProbe device hw with
  | (.ok page, next) => (device.mapPhysical page next.device).1
  | (.error _, _) => none

/-- Looking for the page obtains no mapping. -/
theorem achieves_heciProbe (hw : Hw σ) :
    Exec.Achieves (fun _ => heciProbe device) hw
      fun _ next => liveMappings next.log = liveMappings hw.log := by
  have reads (window : Window) (width : Width) (offset : Nat) (now : Hw σ)
      (same : liveMappings now.log = liveMappings hw.log) :
      Exec.Achieves (fun _ => readReg device window width offset) now
        fun _ next => liveMappings next.log = liveMappings hw.log :=
    Exec.achieves_of_eq (readReg_apply device window width offset now) same
  have writes (window : Window) (width : Width) (offset : Nat) (value : BitVec 32)
      (now : Hw σ) (same : liveMappings now.log = liveMappings hw.log) :
      Exec.Achieves (fun _ => writeReg device window width offset value) now
        fun _ next => liveMappings next.log = liveMappings hw.log :=
    Exec.achieves_of_eq (writeReg_apply device window width offset value now) same
  refine (reads _ _ _ hw rfl).bind fun bar next same => ?_
  refine (writes _ _ _ _ next same).bind fun _ next same => ?_
  refine (reads _ _ _ next same).bind fun _ next same => ?_
  refine (writes _ _ _ _ next same).bind fun _ next same => ?_
  refine (reads _ _ _ next same).bind fun restored next same => ?_
  have command : Exec.Achieves (fun _ => heciPciRead8 device pciCommandOffset) next
      fun _ next => liveMappings next.log = liveMappings hw.log :=
    (reads _ _ _ next same).bind fun value next same => Exec.achieves_pure same
  refine command.bind fun command next same => ?_
  have enabled : Exec.Achieves (fun _ => heciPciEnable device command) next
      fun _ next => liveMappings next.log = liveMappings hw.log := by
    apply Exec.achieves_ite
    · exact (reads _ _ _ next same).bind fun old next same =>
        writes _ _ _ _ next same
    · exact Exec.achieves_pure same
  exact enabled.bind fun _ next same => Exec.achieves_pure same

theorem heciGetBaseAddr_eq :
    heciGetBaseAddr device = (do
      let page ← heciProbe device
      let mapped ← vmmAllocPhysical device page
      pure (mapped.getD 0)) := by
  simp only [heciGetBaseAddr, heciProbe, bind_assoc, pure_bind]

/-- What `heci_get_base_addr` returns and leaves in the log. -/
theorem heciGetBaseAddr_run (hw : Hw σ) :
    ∃ (page : Nat) (next : Hw σ), liveMappings next.log = liveMappings hw.log ∧
      heciGetBaseAddr device hw =
        (.ok ((grantedMapping device hw).getD 0),
          { device := (device.mapPhysical page next.device).2
            log := .map page (grantedMapping device hw) :: next.log }) := by
  obtain ⟨page, next, same, bound, probed⟩ := achieves_heciProbe device hw
  have returned := probed bound (Nat.le_refl bound)
  have granted : grantedMapping device hw = (device.mapPhysical page next.device).1 := by
    rw [grantedMapping, returned]
  refine ⟨page, next, same, ?_⟩
  rw [heciGetBaseAddr_eq, Exec.bind_of_ok returned, granted]
  rfl

/-! ## One call -/

/-- A call of `get_attkb`: whether its pointer is null, the block behind it and
the bound on the loops. -/
structure AttkbCall where
  attkbIsNull : Bool
  block : Memory Cell
  bound : Nat

/-- The hardware after a call. -/
def afterCall (hw : Hw σ) (call : AttkbCall) : Hw σ :=
  (getAttkb device call.bound call.attkbIsNull
    (Download.start hw call.block)).2.hw

/-- The call makes an exchange and is granted the mapping it asks for. -/
def ObtainsMapping (hw : Hw σ) (call : AttkbCall) : Prop :=
  call.attkbIsNull = false ∧ (grantedMapping device hw).isSome

theorem liveMappings_le_afterCall (hw : Hw σ) (call : AttkbCall) :
    liveMappings hw.log ≤ liveMappings (afterCall device hw call).log :=
  (atLeast_kept device (liveMappings hw.log)).getAttkb call.bound
    call.attkbIsNull (Download.start hw call.block) (Nat.le_refl _)

/-- A granted mapping outlives the call that obtained it. -/
theorem liveMappings_lt_afterCall {hw : Hw σ} {call : AttkbCall}
    (obtains : ObtainsMapping device hw call) :
    liveMappings hw.log < liveMappings (afterCall device hw call).log := by
  obtain ⟨notNull, granted⟩ := obtains
  obtain ⟨virtual, given⟩ := Option.isSome_iff_exists.mp granted
  have kept := atLeast_kept device (liveMappings hw.log + 1)
  obtain ⟨page, next, same, based⟩ := heciGetBaseAddr_run device hw
  have mapped : AtLeast (liveMappings hw.log + 1) (heciGetBaseAddr device hw).2 := by
    have more : liveMappings (heciGetBaseAddr device hw).2.log =
        liveMappings hw.log + 1 := by
      rw [based, given, liveMappings_map_some, same]
    exact Nat.le_of_eq more.symm
  let fresh := Download.start hw call.block
  have exchanged : KeptByAccesses.OfHw (AtLeast (liveMappings hw.log + 1))
      (attkbExchange device call.bound 0 0 fresh).2 :=
    KeptByAccesses.after_answer call.bound 0 0 (kept.after_mapping _ _ _ _ _ _ mapped)
  have ended : KeptByAccesses.OfHw (AtLeast (liveMappings hw.log + 1))
      (getAttkb device call.bound false fresh).2 := kept.after_query call.bound exchanged
  rw [afterCall, notNull]
  exact ended

/-- Without a mapping the size query fails, and the call ends there. -/
theorem liveMappings_afterCall_eq {hw : Hw σ} {call : AttkbCall}
    (obtains : ¬ ObtainsMapping device hw call) :
    liveMappings (afterCall device hw call).log = liveMappings hw.log := by
  cases null : call.attkbIsNull with
  | true =>
      rw [afterCall, null]
      rfl
  | false =>
      have refused : grantedMapping device hw = none :=
        Option.not_isSome_iff_eq_none.mp fun granted => obtains ⟨null, granted⟩
      obtain ⟨page, next, same, based⟩ := heciGetBaseAddr_run device hw
      rw [refused] at based
      have unsent : heciSendwAck device call.bound (requestMessage 0 0) requestSize
          dataBufferSize biosFixedHostAddr biosSecAddr hw =
            (.ok (1, requestMessage 0 0),
              { device := (device.mapPhysical page next.device).2
                log := .map page none :: next.log }) := by
        rw [heciSendwAck, Exec.bind_of_ok based]
        rfl
      have recorded := attkbExchange_returned device (Download.start hw call.block)
        unsent
      have empty : (requestMessage 0 0).totalFileSize = 0 := by decide
      have nothing := getAttkbSize_refused device recorded (by decide) (Or.inr empty)
      rw [afterCall, null, getAttkb, if_neg Bool.false_ne_true,
        Exec.bind_of_ok nothing]
      exact same

/-! ## Sequences of calls -/

/-- The hardware before the call with the given number. -/
def beforeCall (start : Hw σ) (calls : Nat → AttkbCall) : Nat → Hw σ
  | 0 => start
  | n + 1 => afterCall device (beforeCall start calls n) (calls n)

/-- Over an endless sequence of calls the number of live mappings is bounded
exactly when from some call on none obtains a mapping. -/
theorem mappings_bounded_iff (start : Hw σ) (calls : Nat → AttkbCall) :
    (∃ most, ∀ n, liveMappings (beforeCall device start calls n).log ≤ most) ↔
      ∃ first, ∀ n, first ≤ n →
        ¬ ObtainsMapping device (beforeCall device start calls n) (calls n) := by
  have grows (n : Nat) : liveMappings (beforeCall device start calls n).log ≤
      liveMappings (beforeCall device start calls (n + 1)).log :=
    liveMappings_le_afterCall device _ (calls n)
  rw [bounded_iff_stationary grows]
  refine exists_congr fun first => forall_congr' fun n => imp_congr_right fun _ => ?_
  constructor
  · intro same obtains
    exact absurd same (Nat.ne_of_gt (liveMappings_lt_afterCall device obtains))
  · intro nothing
    exact liveMappings_afterCall_eq device nothing

/-- A keybox of one byte on a device whose window can always be mapped. -/
def patientDevice : Device Mailbox :=
  mailboxDevice (byteReply [0xA5]) fun _ => true

theorem patientDevice_grants (hw : Hw Mailbox) :
    (grantedMapping patientDevice hw).isSome := by
  obtain ⟨page, next, same, bound, probed⟩ := achieves_heciProbe patientDevice hw
  rw [grantedMapping, probed bound (Nat.le_refl bound)]
  rfl

/-- Downloading the keybox over and over leaves more and more mappings behind. -/
theorem patientDevice_mappings_unbounded :
    ¬ ∃ most, ∀ n, liveMappings (beforeCall patientDevice ⟨Mailbox.empty, []⟩
      (fun _ => ⟨false, fun _ => Cell.zero, 8⟩) n).log ≤ most := by
  rintro ⟨most, bounded⟩
  have many : ∀ n, n ≤ liveMappings (beforeCall patientDevice ⟨Mailbox.empty, []⟩
      (fun _ => ⟨false, fun _ => Cell.zero, 8⟩) n).log := by
    intro n
    induction n with
    | zero => exact Nat.zero_le _
    | succ n ih =>
        exact Nat.lt_of_le_of_lt ih
          (liveMappings_lt_afterCall patientDevice ⟨rfl, patientDevice_grants _⟩)
  exact absurd (bounded (most + 1)) (Nat.not_le.mpr (many (most + 1)))

end SandPlatform.Heci
