import SandPlatform.Hardware.Pci
import SandPlatform.Heci.Bounds

/-!
# Devices that answer as the keybox protocol asks

A conforming device is described by what the host can observe of it.  A relation
between the states of the device and the stages of an exchange stands for the
internals: the host has written some words, has rung the doorbell, or has a
reply to read.  On such a device every exchange completes with the reply the
device chose, and `get_attkb` assembles the file from whatever short reads it is
given.
-/

namespace SandPlatform.Heci

open SandPlatform.Foundation
open SandPlatform.Hardware
open SandPlatform.Kernel

universe u

/-! ## Requests and replies -/

/-- The frame `heci_send_impl` puts on the bus for a request: header and three
data words. -/
def requestFrame (offset size : Nat) : List (BitVec 32) :=
  [HeciMsgHdr.build biosSecAddr biosFixedHostAddr 1 requestSize,
    requestWords offset size 0, requestWords offset size 1,
    requestWords offset size 2]

/-- The buffer that holds the data words of a frame and nothing else. -/
def bodyMessage (body : List (BitVec 32)) : Message :=
  Message.ofWords (Memory.ofList body fun _ => 0)

theorem word_bodyMessage {body : List (BitVec 32)} {i : Nat}
    (inside : i < body.length) : (bodyMessage body).word i = body[i] := by
  rw [bodyMessage, Message.word_ofWords]
  exact Memory.ofList_apply_of_lt inside

/-- A message answers the request for `size` bytes of `file` at `offset`.  A
request of size zero asks for the size of the file; any other one may be
answered by fewer bytes than it asked for. -/
structure Answer (file : List (BitVec 8)) (offset size : Nat)
    (message : Message) : Prop where
  result : message.result = 0
  total : size = 0 → message.totalFileSize = file.length
  positive : size ≠ 0 → 1 ≤ message.readSize
  within : size ≠ 0 → message.readSize ≤ size
  data : size ≠ 0 → ∀ i, i < message.readSize →
    message.byte (responseSize + i) = file.getD (offset + i) 0

/-- A reply is one complete frame whose header announces the fixed part of the
response and `ReadSize` bytes behind it. -/
structure Reply (file : List (BitVec 8)) (offset size : Nat) (head : BitVec 32)
    (body : List (BitVec 32)) : Prop where
  complete : HeciMsgHdr.messageComplete head = 1
  length : HeciMsgHdr.length head = responseSize + (bodyMessage body).readSize
  words : body.length = HeciMsgHdr.dataWords head
  answer : Answer file offset size (bodyMessage body)

namespace Reply

variable {file : List (BitVec 8)} {offset size : Nat} {head : BitVec 32}
  {body : List (BitVec 32)}

/-- The words of a reply cover the bytes it carries. -/
theorem covers (reply : Reply file offset size head body) :
    responseSize + (bodyMessage body).readSize ≤ 4 * body.length := by
  rw [reply.words, HeciMsgHdr.dataWords, reply.length]
  omega

/-- A buffer that starts with the words of a reply answers the request. -/
theorem answer_of_words (reply : Reply file offset size head body)
    {message : Message}
    (same : ∀ i, i < body.length → message.word i = (bodyMessage body).word i) :
    Answer file offset size message := by
  have covers := reply.covers
  have fixedPart : responseSize = 12 := rfl
  have readSize : message.readSize = (bodyMessage body).readSize := by
    rw [Message.readSize, Message.readSize, same 2 (by omega)]
  constructor
  · rw [Message.result, same 0 (by omega)]
    exact reply.answer.result
  · intro query
    rw [Message.totalFileSize, same 1 (by omega)]
    exact reply.answer.total query
  · intro read
    rw [readSize]
    exact reply.answer.positive read
  · intro read
    rw [readSize]
    exact reply.answer.within read
  · intro read i inside
    rw [readSize] at inside
    rw [Message.byte, same _ (by omega)]
    exact reply.answer.data read i inside

end Reply

/-! ## Conforming devices -/

/-- How far an exchange has got, as far as the host can tell: the words written
to the device, a frame handed over with the doorbell, or the words of the reply
that are still to be read. -/
inductive Stage
  | collecting (written : List (BitVec 32))
  | pending (frame : List (BitVec 32))
  | delivering (unread : List (BitVec 32))

/-- No frame is half written. -/
def Stage.Quiet : Stage → Prop
  | .collecting written => written = []
  | .pending _ => True
  | .delivering _ => True

/-- The writes around the frames: to the configuration space of the engine, to the port
that selects a register there, and to the control register with the host ready. -/
def ControlWrite : Window → Nat → BitVec 32 → Prop
  | .cse, _, _ => True
  | .port, offset, _ => offset = pciConfigAddressRegister
  | .heci _, offset, value => offset = hCsr ∧ HostCtrlReg.hRdy value = 1
  | _, _, _ => False

theorem controlWrite_cse (offset : Nat) (value : BitVec 32) :
    ControlWrite .cse offset value :=
  trivial

theorem controlWrite_hCsr (base : Nat) {value : BitVec 32}
    (ready : HostCtrlReg.hRdy value = 1) : ControlWrite (.heci base) hCsr value :=
  ⟨rfl, ready⟩

variable {σ : Type u}

/-- A wait of the driver for `predicate` succeeds before its timeout and leaves
the device in a state with `post`. -/
def Awaits (device : Device σ) (predicate : Exec Stop (Hw σ) Int) (state : σ)
    (post : σ → Prop) : Prop :=
  ∀ log, Exec.Achieves
    (fun bound => waitEvent device bound heciEventTimeout (some predicate))
    ⟨state, log⟩ fun res hw => 0 < res ∧ post hw.device

/-- The device serves `file`.  `At stage state` says that a state of the device
corresponds to a stage of an exchange. -/
structure Conforming (device : Device σ) (file : List (BitVec 8))
    (At : Stage → σ → Prop) : Prop where
  /-- Only the read window consumes anything. -/
  read : ∀ stage state window width offset, At stage state →
    (∀ base, (window, offset) ≠ (.heci base, secCbRw)) →
    At stage (device.read window width offset state).2
  /-- Control of the device matters only with a frame at hand. -/
  write : ∀ stage state window width offset value, At stage state →
    stage.Quiet → ControlWrite window offset value →
    At stage (device.write window width offset value state)
  map : ∀ stage state physical, At stage state →
    ∃ base, (device.mapPhysical physical state).1 = some base ∧ base ≠ 0 ∧
      At stage (device.mapPhysical physical state).2
  /-- Header and request fit into the host buffer. -/
  depth : ∀ state base, At (.collecting []) state →
    4 ≤ (HostCtrlReg.hCbd (device.read (.heci base) .word hCsr state).1).toNat
  ready : ∀ state base, At (.collecting []) state →
    Awaits device (isDevReady device base) state (At (.collecting []))
  absorb : ∀ state base word written, At (.collecting written) state →
    At (.collecting (written ++ [word]))
      (device.write (.heci base) .word hCbWw word state)
  /-- The interrupt hands the frame over. -/
  ring : ∀ state base value frame, At (.collecting frame) state → frame ≠ [] →
    HostCtrlReg.hIg value = 1 →
    At (.pending frame) (device.write (.heci base) .word hCsr value state)
  /-- A request within the file is answered, by a reply of the device's
  choice. -/
  answer : ∀ state base offset size, At (.pending (requestFrame offset size)) state →
    offset + size ≤ file.length →
    Awaits device (isDevDataReady device base) state fun next =>
      ∃ head body, Reply file offset size head body ∧
        At (.delivering (head :: body)) next
  dataReady : ∀ state base word rest, At (.delivering (word :: rest)) state →
    Awaits device (isDevDataReady device base) state
      (At (.delivering (word :: rest)))
  take : ∀ state base word rest, At (.delivering (word :: rest)) state →
    (device.read (.heci base) .word secCbRw state).1 = word ∧
      At (.delivering rest) (device.read (.heci base) .word secCbRw state).2
  /-- With the whole reply read, the next exchange can begin. -/
  done : ∀ state, At (.delivering []) state → At (.collecting []) state

end SandPlatform.Heci
