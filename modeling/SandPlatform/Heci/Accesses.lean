import SandPlatform.Heci.Keybox

/-!
# The driver is made of accesses

The driver touches the hardware through register accesses, mappings and the
stores of a receive, and in no other way.  A property that each of these keeps
therefore survives every routine, whichever way the routine ends, and no routine
can tell what is on the log of the accesses.
-/

namespace SandPlatform.Heci

open SandPlatform.Foundation
open SandPlatform.Hardware
open SandPlatform.Kernel

universe u

variable {σ : Type u}

/-- Accesses to the hardware, one after another. -/
inductive MadeOfAccesses (device : Device σ) : {α : Type} → Exec Stop (Hw σ) α → Prop
  | read (window : Window) (width : Width) (offset : Nat) :
      MadeOfAccesses device (readReg device window width offset)
  | write (window : Window) (width : Width) (offset : Nat) (value : BitVec 32) :
      MadeOfAccesses device (writeReg device window width offset value)
  | map (physical : Nat) : MadeOfAccesses device (vmmAllocPhysical device physical)
  | store (message : Option Message) (index : Nat) (value : BitVec 32) :
      MadeOfAccesses device (storeWord message index value)
  | done {α : Type} (value : α) : MadeOfAccesses device (pure value)
  | stop {α : Type} (reason : Stop) :
      MadeOfAccesses device (Exec.stop reason : Exec Stop (Hw σ) α)
  | bind {α β : Type} {first : Exec Stop (Hw σ) α} {rest : α → Exec Stop (Hw σ) β}
      (firstMade : MadeOfAccesses device first)
      (restMade : ∀ value, MadeOfAccesses device (rest value)) :
      MadeOfAccesses device (first >>= rest)

namespace MadeOfAccesses

variable {device : Device σ}

theorem ite {α : Type} {condition : Prop} [Decidable condition]
    {first second : Exec Stop (Hw σ) α} (firstMade : MadeOfAccesses device first)
    (secondMade : MadeOfAccesses device second) :
    MadeOfAccesses device (if condition then first else second) := by
  split
  · exact firstMade
  · exact secondMade

/-- Reading a register and judging its value. -/
theorem poll {α : Type} (window : Window) (width : Width) (offset : Nat)
    (judge : BitVec 32 → α) :
    MadeOfAccesses device (do
      let reg ← readReg device window width offset
      pure (judge reg)) :=
  bind (read window width offset) fun reg => done (judge reg)

/-! ## The routines of the driver -/

theorem pollLoop {predicate : Exec Stop (Hw σ) Int}
    (made : MadeOfAccesses device predicate) (start timeout : BitVec 32) (bound : Nat) :
    MadeOfAccesses device (pollLoop device (some predicate) start timeout bound) := by
  induction bound with
  | zero => exact stop _
  | succ bound ih =>
      refine bind made fun res => ?_
      apply ite
      · exact done res
      · apply ite
        · exact ih
        · refine bind (read _ _ _) fun now => ?_
          apply ite
          · exact done _
          · exact ih

theorem waitEvent {predicate : Exec Stop (Hw σ) Int}
    (made : MadeOfAccesses device predicate) (bound : Nat) (timeout : BitVec 32) :
    MadeOfAccesses device (waitEvent device bound timeout (some predicate)) := by
  have timer : MadeOfAccesses device (initTimer device) := by
    refine bind (write _ _ _ _) fun _ => ?_
    refine bind (write _ _ _ _) fun _ => ?_
    exact bind (read _ _ _) fun reg => write _ _ _ _
  refine bind timer fun _ => ?_
  exact bind (read _ _ _) fun start => made.pollLoop start _ bound

theorem heciPciEnable (command : BitVec 8) :
    MadeOfAccesses device (heciPciEnable device command) := by
  apply ite
  · exact bind (read _ _ _) fun old => write _ _ _ _
  · exact done _

theorem heciGetBaseAddr : MadeOfAccesses device (heciGetBaseAddr device) := by
  refine bind (read _ _ _) fun bar => ?_
  refine bind (write _ _ _ _) fun _ => ?_
  refine bind (read _ _ _) fun _ => ?_
  refine bind (write _ _ _ _) fun _ => ?_
  refine bind (read _ _ _) fun restored => ?_
  refine bind (poll _ _ _ _) fun command => ?_
  refine bind (heciPciEnable command) fun _ => ?_
  exact bind (map _) fun mapped => done _

theorem sendWords (base : Nat) (message : Message) (writeSize left index : Nat) :
    MadeOfAccesses device (sendWords device base message writeSize left index) := by
  induction left generalizing index with
  | zero => exact done _
  | succ left ih => exact bind (write _ _ _ _) fun _ => ih _

theorem sendFragment (base : Nat) (message : Message) (length : Nat)
    (hostAddress devAddr : BitVec 8) (size leftSize writeSize : Nat) :
    MadeOfAccesses device (sendFragment device base message length hostAddress
      devAddr size leftSize writeSize) := by
  refine bind (read _ _ _) fun hcr => ?_
  refine bind (write _ _ _ _) fun _ => ?_
  refine bind (write _ _ _ _) fun _ => ?_
  refine bind (sendWords _ _ _ _ _) fun _ => ?_
  exact bind (read _ _ _) fun status => write _ _ _ _

theorem sendLoop (bound base : Nat) (message : Message) (length : Nat)
    (hostAddress devAddr : BitVec 8) (maxBuffer rounds leftSize writeSize : Nat) :
    MadeOfAccesses device (sendLoop device bound base message length hostAddress
      devAddr maxBuffer rounds leftSize writeSize) := by
  induction rounds generalizing leftSize writeSize with
  | zero => exact stop _
  | succ rounds ih =>
      rw [Heci.sendLoop]
      apply ite
      · exact done _
      · refine bind (waitEvent (poll _ _ _ _) _ _) fun ready => ?_
        apply ite
        · exact done _
        · refine bind (sendFragment _ _ _ _ _ _ _ _) fun _ => ?_
          apply ite
          · refine bind (waitEvent (poll _ _ _ _) _ _) fun raised => ?_
            apply ite
            · exact done _
            · exact ih _ _
          · exact ih _ _

theorem heciSendImpl (bound base : Nat) (message : Option Message) (length : Nat)
    (hostAddress devAddr : BitVec 8) :
    MadeOfAccesses device
      (heciSendImpl device bound base message length hostAddress devAddr) := by
  cases message with
  | none => exact done _
  | some message =>
      apply ite
      · exact done _
      · refine bind (read _ _ _) fun hcr => ?_
        refine bind (write _ _ _ _) fun _ => ?_
        exact sendLoop _ _ _ _ _ _ _ _ _ _

theorem receiveWords (bound base bufSize left index : Nat) (message : Option Message) :
    MadeOfAccesses device
      (receiveWords device bound base bufSize left index message) := by
  induction left generalizing index message with
  | zero => exact done _
  | succ left ih =>
      refine bind (waitEvent (poll _ _ _ _) _ _) fun ready => ?_
      apply ite
      · exact done _
      · refine bind (read _ _ _) fun value => ?_
        refine bind ?_ fun next => ih _ _
        apply ite
        · exact store _ _ _
        · exact done _

theorem receiveLoop (bound base bufSize rounds : Nat) (message : Option Message)
    (length : Option Nat) :
    MadeOfAccesses device
      (receiveLoop device bound base bufSize rounds message length) := by
  induction rounds generalizing message length with
  | zero => exact stop _
  | succ rounds ih =>
      refine bind (read _ _ _) fun hcr => ?_
      refine bind (write _ _ _ _) fun _ => ?_
      refine bind (waitEvent (poll _ _ _ _) _ _) fun ready => ?_
      apply ite
      · exact done _
      · refine bind (read _ _ _) fun head => ?_
        refine bind (receiveWords _ _ _ _ _ _) fun words => ?_
        apply ite
        · refine bind (read _ _ _) fun status => ?_
          refine bind (write _ _ _ _) fun _ => ?_
          apply ite
          · exact done _
          · exact ih _ _
        · exact done _

/-- An exchange once the window is mapped. -/
theorem exchange (bound base : Nat) (message : Message) (length recLength : Nat)
    (hostAddress secAddress : BitVec 8) :
    MadeOfAccesses device (do
      if base = 0 then
        pure (1, message)
      else do
        let status ← Heci.heciSendImpl device bound base (some message) length
          hostAddress secAddress
        if status ≠ 0 then
          pure (status, message)
        else do
          let received ← heciReceiveImpl device bound base (some message)
            (some recLength)
          pure (received.status, received.message.getD message)) := by
  apply ite
  · exact done _
  · refine bind (heciSendImpl _ _ _ _ _ _) fun status => ?_
    apply ite
    · exact done _
    · exact bind (receiveLoop _ _ _ _ _ _) fun received => done _

theorem heciSendwAck (bound : Nat) (message : Message) (length recLength : Nat)
    (hostAddress secAddress : BitVec 8) :
    MadeOfAccesses device
      (heciSendwAck device bound message length recLength hostAddress secAddress) :=
  bind heciGetBaseAddr fun base => exchange bound base _ _ _ _ _

end MadeOfAccesses

/-! ## What every access keeps -/

/-- A property of the hardware that no single access can break. -/
structure KeptByAccesses (device : Device σ) (inv : Hw σ → Prop) : Prop where
  read : ∀ window width offset,
    Exec.Preserves inv (readReg device window width offset)
  write : ∀ window width offset value,
    Exec.Preserves inv (writeReg device window width offset value)
  map : ∀ physical, Exec.Preserves inv (vmmAllocPhysical device physical)
  store : ∀ message index value,
    Exec.Preserves inv (storeWord message index value)

namespace KeptByAccesses

variable {device : Device σ} {inv : Hw σ → Prop}

/-- What every access keeps, any number of them keeps. -/
theorem preserves {α : Type} {computation : Exec Stop (Hw σ) α}
    (kept : KeptByAccesses device inv) (made : MadeOfAccesses device computation) :
    Exec.Preserves inv computation := by
  induction made with
  | read window width offset => exact kept.read window width offset
  | write window width offset value => exact kept.write window width offset value
  | map physical => exact kept.map physical
  | store message index value => exact kept.store message index value
  | done value => exact Exec.preserves_pure inv value
  | stop reason => exact Exec.preserves_stop inv reason
  | bind _ _ firstKeeps restKeeps => exact Exec.preserves_bind firstKeeps restKeeps

/-- What holds once the window is mapped holds when the exchange ends. -/
theorem after_mapping (kept : KeptByAccesses device inv) (bound : Nat)
    (message : Message) (length recLength : Nat)
    (hostAddress secAddress : BitVec 8) {hw : Hw σ}
    (mapped : inv (Heci.heciGetBaseAddr device hw).2) :
    inv (heciSendwAck device bound message length recLength hostAddress
      secAddress hw).2 := by
  refine Exec.holds_bind mapped fun base => ?_
  exact kept.preserves (.exchange bound base _ _ _ _ _)

/-! ## Downloads -/

/-- A property of the hardware, as one of a download. -/
def OfHw (inv : Hw σ → Prop) (download : Download σ) : Prop :=
  inv download.hw

/-- What holds when the request was answered holds when the exchange is on
record. -/
theorem after_answer (bound offset size : Nat) {download : Download σ}
    (answered : inv (heciSendwAck device bound (requestMessage offset size)
      requestSize dataBufferSize biosFixedHostAddr biosSecAddr download.hw).2) :
    OfHw inv (attkbExchange device bound offset size download).2 := by
  refine Exec.holds_bind answered fun answer => ?_
  refine Exec.preserves_bind (Exec.preserves_modify fun _ holds => holds)
    fun _ => ?_
  exact Exec.preserves_pure _ answer

theorem attkbExchange (kept : KeptByAccesses device inv)
    (bound offset size : Nat) :
    Exec.Preserves (OfHw inv)
      (attkbExchange device bound offset size) :=
  fun download holds => after_answer bound offset size
    (kept.preserves (.heciSendwAck _ _ _ _ _ _) download.hw holds)

theorem chunkLoop (kept : KeptByAccesses device inv)
    (bound total rounds offset remaining : Nat) :
    Exec.Preserves (OfHw inv)
      (chunkLoop device bound total rounds offset remaining) := by
  induction rounds generalizing offset remaining with
  | zero => exact Exec.preserves_stop _ _
  | succ rounds ih =>
      rw [Heci.chunkLoop]
      apply Exec.preserves_ite
      · exact Exec.preserves_pure _ _
      · refine Exec.preserves_bind (kept.attkbExchange _ _ _) fun answer => ?_
        apply Exec.preserves_ite
        · exact Exec.preserves_pure _ _
        · apply Exec.preserves_ite
          · exact Exec.preserves_pure _ _
          · refine Exec.preserves_bind (Exec.preserves_modify fun _ holds => holds)
              fun _ => ?_
            exact ih _ _

/-- What holds after the size query holds when `get_attkb` ends. -/
theorem after_query (kept : KeptByAccesses device inv) (bound : Nat)
    {download : Download σ}
    (queried : OfHw inv (Heci.attkbExchange device bound 0 0 download).2) :
    OfHw inv (getAttkb device bound false download).2 := by
  have sized : OfHw inv (getAttkbSize device bound download).2 := by
    refine Exec.holds_bind queried fun answer => ?_
    exact Exec.preserves_ite (Exec.preserves_pure _ _) (Exec.preserves_pure _ _)
  refine Exec.holds_bind sized fun attkbSize => ?_
  apply Exec.preserves_ite
  · exact Exec.preserves_pure _ _
  · exact kept.chunkLoop _ _ _ _ _

/-- What every access keeps, `get_attkb` keeps. -/
theorem getAttkb (kept : KeptByAccesses device inv) (bound : Nat)
    (attkbIsNull : Bool) :
    Exec.Preserves (OfHw inv)
      (getAttkb device bound attkbIsNull) := by
  intro download holds
  cases attkbIsNull with
  | true => exact holds
  | false => exact kept.after_query bound (kept.attkbExchange bound 0 0 download holds)

end KeptByAccesses

/-! ## What does not depend on the log -/

/-- Hardware in the same state, whatever is on the log. -/
def SameDevice (hw hw' : Hw σ) : Prop :=
  hw.device = hw'.device

/-- What a computation does is independent of the log. -/
def LogBlind {α : Type} (computation : Exec Stop (Hw σ) α) : Prop :=
  Exec.Simulates SameDevice computation computation

/-- The log is kept for the statements only. -/
theorem MadeOfAccesses.logBlind {device : Device σ} {α : Type}
    {computation : Exec Stop (Hw σ) α} (made : MadeOfAccesses device computation) :
    LogBlind computation := by
  induction made with
  | read window width offset =>
      rintro ⟨state, log⟩ ⟨_, log'⟩ rfl
      exact ⟨rfl, rfl⟩
  | write window width offset value =>
      rintro ⟨state, log⟩ ⟨_, log'⟩ rfl
      exact ⟨rfl, rfl⟩
  | map physical =>
      rintro ⟨state, log⟩ ⟨_, log'⟩ rfl
      exact ⟨rfl, rfl⟩
  | store message index value =>
      cases message with
      | none => exact Exec.simulates_pure _ _
      | some buffer =>
          rintro ⟨state, log⟩ ⟨_, log'⟩ rfl
          exact ⟨rfl, rfl⟩
  | done value => exact Exec.simulates_pure _ value
  | stop reason => exact Exec.simulates_stop _ reason
  | bind _ _ firstBlind restBlind => exact Exec.Simulates.bind firstBlind restBlind

end SandPlatform.Heci
