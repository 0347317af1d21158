import SandPlatform.Foundation.Run
import SandPlatform.HwkeyMigration.SendReq

/-!
# A session with the key server

The server answers every request it receives once and in order, so what is under
way on a session is a queue of answers, of which some have already arrived.  What
goes wrong locally in a call, when answers arrive and what they contain is
decided call by call.
-/

namespace SandPlatform.HwkeyMigration

open SandPlatform.Foundation

/-- An answer and the number of the request it answers. -/
structure Reply where
  tag : Nat
  bytes : List (BitVec 8)

/-- A session: how many requests the server has received, the answers that the
client has not taken, oldest first, how many of these have arrived, and for the
current call its own request and the answer it read. -/
structure Channel where
  received : Nat
  replies : List Reply
  arrived : Nat
  own : Option Nat
  read : Option Nat
  /-- An answer belongs to a request that was received. -/
  answered : ∀ reply, reply ∈ replies → reply.tag < received

/-- What a call does not control: what `send_msg` returns and whether the server
receives the request, its answer, how many answers arrive before `get_msg`, and
the codes of the other calls.  `get_msg` and `read_msg` work unless they fail or
fall short. -/
structure Circumstances where
  sendRc : Int
  delivered : Bool
  answer : List (BitVec 8)
  arrivals : Nat
  waitRc : Int
  getRc : Int
  readRc : Option Int

namespace Channel

/-- A session before the first call. -/
def start : Channel where
  received := 0
  replies := []
  arrived := 0
  own := none
  read := none
  answered _ member := by cases member

/-- Nothing sent and nothing read yet in the current call. -/
def beginCall (channel : Channel) : Channel :=
  { channel with own := none, read := none }

/-- The server receives a request. -/
def accept (answer : List (BitVec 8)) (channel : Channel) : Channel where
  received := channel.received + 1
  replies := channel.replies ++ [⟨channel.received, answer⟩]
  arrived := channel.arrived
  own := some channel.received
  read := channel.read
  answered reply member := by
    rcases List.mem_append.mp member with earlier | last
    · exact Nat.lt_succ_of_lt (channel.answered reply earlier)
    · rw [List.mem_singleton.mp last]
      exact Nat.lt_succ_self _

@[simp]
theorem replies_accept (answer : List (BitVec 8)) (channel : Channel) :
    (channel.accept answer).replies =
      channel.replies ++ [⟨channel.received, answer⟩] :=
  rfl

/-- Answers arrive, as many as there are at most. -/
def arrive (arrivals : Nat) (channel : Channel) : Channel :=
  { channel with
    arrived := min (channel.arrived + arrivals) channel.replies.length }

/-- The answer that `read_msg` reads is the first that was not taken. -/
def noteRead (channel : Channel) : Channel :=
  { channel with read := channel.replies.head?.map Reply.tag }

/-- The oldest answer is retired. -/
def retire (channel : Channel) : Channel :=
  { channel with
    replies := channel.replies.tail
    arrived := channel.arrived - 1
    answered := fun reply member =>
      channel.answered reply (List.mem_of_mem_tail member) }

end Channel

/-- `ERR_NO_MSG`. -/
def errNoMsg : Int := -4

/-- The kernel calls on a session under the given circumstances. -/
def sessionIpc (abi : Abi) (circumstances : Circumstances) : Ipc Channel where
  sendMsg _ _ channel :=
    (circumstances.sendRc,
      if circumstances.delivered then channel.accept circumstances.answer else channel)
  wait channel :=
    (circumstances.waitRc, channel.arrive circumstances.arrivals)
  getMsg channel :=
    if circumstances.getRc ≠ 0 then
      (⟨circumstances.getRc, 0, 0⟩, channel)
    else
      match channel.replies.take channel.arrived with
      | [] => (⟨errNoMsg, 0, 0⟩, channel)
      | reply :: _ => (⟨0, reply.tag, reply.bytes.length⟩, channel)
  readMsg _ room channel :=
    let bytes := (channel.replies.head?.map Reply.bytes).getD []
    (⟨circumstances.readRc.getD (min bytes.length (abi.sizeofMsg + room) : Nat),
        abi.decode (bytes.take abi.sizeofMsg), (bytes.drop abi.sizeofMsg).take room⟩,
      channel.noteRead)
  putMsg _ channel := ((), channel.retire)

/-! ## Runs -/

/-- A call on the session, with its arguments and circumstances. -/
inductive Call
  | generateCryptoContext (data : Option (Memory (BitVec 8))) (dataSize : BitVec 32)
      (circumstances : Circumstances)
  | exchangeCryptoContext (src dst : Option (Memory (BitVec 8)))
      (dstSize : BitVec 32) (circumstances : Circumstances)
  | getSsek (ssek : Option (Memory (BitVec 8))) (ssekSize : BitVec 32)
      (circumstances : Circumstances)

variable (abi : Abi)

/-- Run a call. -/
def Call.perform (channel : Channel) : Call → Outcome Channel
  | .generateCryptoContext data dataSize circumstances =>
      hwkeyGenerateCryptoContext abi (sessionIpc abi circumstances) data dataSize
        channel
  | .exchangeCryptoContext src dst dstSize circumstances =>
      hwkeyExchangeCryptoContext abi (sessionIpc abi circumstances) src dst dstSize
        channel
  | .getSsek ssek ssekSize circumstances =>
      hwkeyGetSsek abi (sessionIpc abi circumstances) ssek ssekSize channel

/-- What a finished call looked like: its code, the number of its request and
the number of the request whose answer it read. -/
structure Finished where
  rc : Rc
  own : Option Nat
  read : Option Nat
  deriving DecidableEq

/-- The session and its finished calls, oldest first. -/
structure History where
  channel : Channel
  finished : List Finished

/-- A session on which no call has been made. -/
def History.start : History :=
  ⟨Channel.start, []⟩

/-- One more call on the session, after which its result is known. -/
def step (history : History) (call : Call) : History :=
  let outcome := call.perform abi history.channel.beginCall
  ⟨outcome.session,
    history.finished ++ [⟨outcome.rc, outcome.session.own, outcome.session.read⟩]⟩

/-- A call that returned without error has accepted the answer to its own
request. -/
def Finished.Matched (finished : Finished) : Prop :=
  finished.rc = .noError →
    ∃ tag, finished.own = some tag ∧ finished.read = some tag

/-- Every finished call is matched. -/
def Matched (history : History) : Prop :=
  ∀ finished, finished ∈ history.finished → finished.Matched

end SandPlatform.HwkeyMigration
