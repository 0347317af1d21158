import SandPlatform.Foundation.Word
import SandPlatform.HwkeyMigration.Channel

/-!
# Requests and their answers

An answer that an interrupted call leaves behind is the first one the next call
reads, and nothing but the command, the status and the length tells it from the
answer to that call.  The calls are matched with their answers exactly as long
as no such answer can be taken for the right one.
-/

namespace SandPlatform.HwkeyMigration

open SandPlatform.Foundation

variable (abi : Abi)

/-- An answer that a request accepts: the header and exactly as many bytes as were
asked for, with the command of the response and no error. -/
structure Acceptable (cmd size : BitVec 32) (bytes : List (BitVec 8)) : Prop where
  length : bytes.length = abi.sizeofMsg + size.toNat
  representable : bytes.length < 2 ^ 32
  command : (abi.decode (bytes.take abi.sizeofMsg)).cmd = cmd ||| abi.respBit
  status : (abi.decode (bytes.take abi.sizeofMsg)).status = abi.hwkeyNoError

/-- No kernel call of a request fails or falls short before it has read an answer
of `length` bytes, and an answer is there when it looks; `arrived` of them were
there before. -/
structure Uninterrupted (size : BitVec 32) (arrived : Nat)
    (circumstances : Circumstances) (length : Nat) : Prop where
  send : circumstances.sendRc = (abi.sizeofMsg + size.toNat : Nat)
  wait : circumstances.waitRc = 0
  present : 0 < arrived + circumstances.arrivals
  get : circumstances.getRc = 0
  readNonneg : 0 ≤ circumstances.readRc.getD length
  readWhole : (circumstances.readRc.getD length).toNat % 2 ^ 32 = length

theorem hwkeyErrToTipcErr_eq_noError_iff (hwkeyErr : BitVec 32) :
    hwkeyErrToTipcErr abi hwkeyErr = .noError ↔ hwkeyErr = abi.hwkeyNoError := by
  rw [hwkeyErrToTipcErr]
  split
  · rename_i same
    exact iff_of_true rfl same
  · rename_i differs
    refine iff_of_false ?_ differs
    (repeat' split) <;> decide

variable (circumstances : Circumstances)

/-- Whether a request got its answer: it was left without error, and the length
it was told is the one it asked for. -/
def Answered (size : BitVec 32) (left : Except Rc Rc × Client Channel) : Prop :=
  returned left.1 = .noError ∧ size = left.2.rspBufLen

theorem not_answered_of_error {size : BitVec 32} {rc : Rc} (failed : rc ≠ .noError)
    (client : Client Channel) : ¬ Answered size (.error rc, client) :=
  fun answered => failed answered.1

theorem checkReply_answered_iff (cmdSent size : BitVec 32) (readLen : Nat)
    (client : Client Channel) :
    Answered size (checkReply abi cmdSent readLen client) ↔
      client.msg.cmd = cmdSent ||| abi.respBit ∧
        client.msg.status = abi.hwkeyNoError ∧
        size = BitVec.ofNat 32 (readLen - abi.sizeofMsg) := by
  rw [checkReply, Exec.gets_bind_apply]
  by_cases command : client.msg.cmd = cmdSent ||| abi.respBit
  · rw [if_neg (not_not_intro command), Exec.modify_bind_apply, and_iff_right command,
      ← hwkeyErrToTipcErr_eq_noError_iff abi]
    exact Iff.rfl
  · rw [if_pos command]
    exact iff_of_false (not_answered_of_error (by decide) _) fun all => command all.1

theorem checkReply_session (cmdSent : BitVec 32) (readLen : Nat)
    (client : Client Channel) :
    (checkReply abi cmdSent readLen client).2.session = client.session := by
  rw [checkReply, Exec.gets_bind_apply]
  split <;> rfl

/-! ## Reading an answer -/

/-- What `read_msg` makes of an answer that fits. -/
def readResult (room : Nat) (bytes : List (BitVec 8)) : ReadResult :=
  ⟨circumstances.readRc.getD bytes.length, abi.decode (bytes.take abi.sizeofMsg),
    (bytes.drop abi.sizeofMsg).take room⟩

/-- The client once an answer is read and retired. -/
def afterRead (bytes : List (BitVec 8)) (client : Client Channel) :
    Client Channel :=
  { client.store (readResult abi circumstances client.rspBufLen.toNat bytes) with
    session := client.session.noteRead.retire }

theorem readReply_run {client : Client Channel} {reply : Reply}
    (oldest : client.session.replies.head? = some reply)
    (fits : reply.bytes.length ≤ abi.sizeofMsg + client.rspBufLen.toNat)
    (info : MsgInfo) :
    readReply abi (sessionIpc abi circumstances) info client =
      (if circumstances.readRc.getD reply.bytes.length < 0 then
        Exec.stop (.ipc (circumstances.readRc.getD reply.bytes.length))
      else if (circumstances.readRc.getD reply.bytes.length).toNat % 2 ^ 32 ≠
          info.len then
        Exec.stop .errIo
      else
        checkReply abi client.msg.cmd
          ((circumstances.readRc.getD reply.bytes.length).toNat % 2 ^ 32))
        (afterRead abi circumstances reply.bytes client) := by
  have result : (sessionIpc abi circumstances).readMsg info.id
      client.rspBufLen.toNat client.session =
        (readResult abi circumstances client.rspBufLen.toNat reply.bytes,
          client.session.noteRead) := by
    simp only [sessionIpc, oldest, Option.map_some, Option.getD_some,
      Nat.min_eq_left fits]
    rfl
  have read : onSession ((sessionIpc abi circumstances).readMsg info.id
      client.rspBufLen.toNat) client =
        (.ok (readResult abi circumstances client.rspBufLen.toNat reply.bytes),
          { client with session := client.session.noteRead }) := by
    simp only [onSession, result]
  rw [readReply, Exec.gets_bind_apply, Exec.gets_bind_apply, Exec.bind_of_ok read]
  rfl

theorem readReply_session {client : Client Channel} {reply : Reply}
    (oldest : client.session.replies.head? = some reply)
    (fits : reply.bytes.length ≤ abi.sizeofMsg + client.rspBufLen.toNat)
    (info : MsgInfo) :
    (readReply abi (sessionIpc abi circumstances) info client).2.session =
      client.session.noteRead.retire := by
  rw [readReply_run abi circumstances oldest fits]
  split
  · rfl
  · split
    · rfl
    · exact checkReply_session abi _ _ _

theorem readReply_answered_iff {client : Client Channel} {reply : Reply}
    (oldest : client.session.replies.head? = some reply)
    (fits : reply.bytes.length ≤ abi.sizeofMsg + client.rspBufLen.toNat)
    {info : MsgInfo} (length : info.len = reply.bytes.length) (size : BitVec 32) :
    Answered size (readReply abi (sessionIpc abi circumstances) info client) ↔
      0 ≤ circumstances.readRc.getD reply.bytes.length ∧
        (circumstances.readRc.getD reply.bytes.length).toNat % 2 ^ 32 =
          reply.bytes.length ∧
        (abi.decode (reply.bytes.take abi.sizeofMsg)).cmd =
          client.msg.cmd ||| abi.respBit ∧
        (abi.decode (reply.bytes.take abi.sizeofMsg)).status = abi.hwkeyNoError ∧
        size = BitVec.ofNat 32 (reply.bytes.length - abi.sizeofMsg) := by
  rw [readReply_run abi circumstances oldest fits, length]
  by_cases failed : circumstances.readRc.getD reply.bytes.length < 0
  · rw [if_pos failed]
    refine iff_of_false (not_answered_of_error (by simp) _) fun all => ?_
    exact absurd all.1 (Int.not_le.mpr failed)
  · rw [if_neg failed, and_iff_right (Int.not_lt.mp failed)]
    by_cases whole : (circumstances.readRc.getD reply.bytes.length).toNat % 2 ^ 32 =
        reply.bytes.length
    · rw [if_neg (not_not_intro whole), whole, checkReply_answered_iff,
        and_iff_right rfl]
      exact Iff.rfl
    · rw [if_pos whole]
      exact iff_of_false (not_answered_of_error (by decide) _) fun all => whole all.1

/-- An answer of the wrong length is given back unread. -/
theorem receive_of_bad_length {client : Client Channel} {info : MsgInfo}
    (bad : abi.sizeofMsg + client.rspBufLen.toNat < info.len ∨
      info.len < abi.sizeofMsg) :
    ∃ rc, rc ≠ .noError ∧
      receive abi (sessionIpc abi circumstances) info client =
        (.error rc, { client with session := client.session.retire }) := by
  rw [receive, Exec.gets_bind_apply]
  by_cases long : abi.sizeofMsg + client.rspBufLen.toNat < info.len
  · rw [if_pos long]
    exact ⟨.errTooBig, by decide, rfl⟩
  · rw [if_neg long, if_pos (bad.resolve_left long)]
    exact ⟨.errNotValid, by decide, rfl⟩

theorem receive_of_fits {client : Client Channel} {info : MsgInfo}
    (long : ¬ abi.sizeofMsg + client.rspBufLen.toNat < info.len)
    (short : ¬ info.len < abi.sizeofMsg) :
    receive abi (sessionIpc abi circumstances) info client =
      readReply abi (sessionIpc abi circumstances) info client := by
  rw [receive, Exec.gets_bind_apply, if_neg long, if_neg short]

/-- The number of bytes asked for came back exactly when the length is right. -/
theorem length_iff {size : BitVec 32} {length : Nat} :
    length = abi.sizeofMsg + size.toNat ↔
      ¬ abi.sizeofMsg + size.toNat < length ∧ ¬ length < abi.sizeofMsg ∧
        size = BitVec.ofNat 32 (length - abi.sizeofMsg) := by
  constructor
  · intro same
    refine ⟨by omega, by omega, ?_⟩
    rw [same, Nat.add_sub_cancel_left, BitVec.ofNat_toNat, BitVec.setWidth_eq]
  · rintro ⟨long, short, same⟩
    have bound := size.isLt
    have value := congrArg BitVec.toNat same
    rw [BitVec.toNat_ofNat, Nat.mod_eq_of_lt (by omega)] at value
    omega

/-- What `read_msg` has to return for an answer of some length. -/
def ReadWhole (length : Nat) : Prop :=
  0 ≤ circumstances.readRc.getD length ∧
    (circumstances.readRc.getD length).toNat % 2 ^ 32 = length

/-- A request that has got hold of an answer is answered exactly when it reads
the whole of it and accepts it, and then it has read that answer. -/
theorem receive_answered_iff {client : Client Channel} {reply : Reply}
    (oldest : client.session.replies.head? = some reply) {info : MsgInfo}
    (length : info.len = reply.bytes.length) :
    (Answered client.rspBufLen
        (receive abi (sessionIpc abi circumstances) info client) ↔
      ReadWhole circumstances reply.bytes.length ∧
        Acceptable abi client.msg.cmd client.rspBufLen reply.bytes) ∧
      (Answered client.rspBufLen
          (receive abi (sessionIpc abi circumstances) info client) →
        (receive abi (sessionIpc abi circumstances) info client).2.session.read =
          some reply.tag) := by
  by_cases bad : abi.sizeofMsg + client.rspBufLen.toNat < info.len ∨
      info.len < abi.sizeofMsg
  · obtain ⟨rc, failed, stopped⟩ := receive_of_bad_length abi circumstances bad
    rw [stopped]
    have unanswered : ¬ Answered client.rspBufLen
        (.error rc, { client with session := client.session.retire }) :=
      not_answered_of_error failed _
    refine ⟨iff_of_false unanswered ?_, fun answered => absurd answered unanswered⟩
    rintro ⟨_, acceptable⟩
    obtain ⟨long, short, _⟩ := (length_iff abi).mp acceptable.length
    rw [length] at bad
    exact bad.elim long short
  · obtain ⟨long, short⟩ := not_or.mp bad
    have fits : reply.bytes.length ≤ abi.sizeofMsg + client.rspBufLen.toNat := by
      rw [← length]
      exact Nat.le_of_not_lt long
    rw [receive_of_fits abi circumstances long short]
    constructor
    · rw [readReply_answered_iff abi circumstances oldest fits length]
      rw [length] at long short
      constructor
      · rintro ⟨nonneg, whole, command, status, same⟩
        refine ⟨⟨nonneg, whole⟩, (length_iff abi).mpr ⟨long, short, same⟩, ?_,
          command, status⟩
        rw [← whole]
        exact Nat.mod_lt _ (by decide)
      · rintro ⟨⟨nonneg, whole⟩, acceptable⟩
        exact ⟨nonneg, whole, acceptable.command, acceptable.status,
          ((length_iff abi).mp acceptable.length).2.2⟩
    · intro _
      rw [readReply_session abi circumstances oldest fits]
      exact congrArg (Option.map Reply.tag) oldest

/-! ## The whole request -/

theorem getMsg_of_message {channel : Channel} {reply : Reply}
    (works : circumstances.getRc = 0)
    (oldest : channel.replies.head? = some reply) (arrived : 0 < channel.arrived) :
    (sessionIpc abi circumstances).getMsg channel =
      (⟨0, reply.tag, reply.bytes.length⟩, channel) := by
  have first : channel.replies.take channel.arrived =
      reply :: channel.replies.tail.take (channel.arrived - 1) := by
    obtain ⟨rest, replies⟩ := List.head?_eq_some_iff.mp oldest
    rw [replies]
    cases count : channel.arrived with
    | zero => exact absurd count (Nat.ne_of_gt arrived)
    | succ count => rfl
  simp only [sessionIpc, works, first, ne_eq, not_true_eq_false, if_false]

theorem getMsg_of_no_message {channel : Channel}
    (nothing : circumstances.getRc ≠ 0 ∨ channel.replies = [] ∨ channel.arrived = 0) :
    ∃ info, info.rc ≠ 0 ∧
      (sessionIpc abi circumstances).getMsg channel = (info, channel) := by
  by_cases works : circumstances.getRc = 0
  · have none : channel.replies.take channel.arrived = [] := by
      rcases nothing.resolve_left (not_not_intro works) with empty | early
      · rw [empty, List.take_nil]
      · rw [early, List.take_zero]
    refine ⟨⟨errNoMsg, 0, 0⟩, by decide, ?_⟩
    simp only [sessionIpc, works, none, ne_eq, not_true_eq_false, if_false]
  · exact ⟨⟨circumstances.getRc, 0, 0⟩, works, if_pos works⟩

/-- The client once `wait` has returned. -/
def afterWait (client : Client Channel) : Client Channel :=
  { client with session := client.session.arrive circumstances.arrivals }

theorem onSession_getMsg {client : Client Channel} {info : MsgInfo}
    (taken : (sessionIpc abi circumstances).getMsg client.session =
      (info, client.session)) :
    onSession (sessionIpc abi circumstances).getMsg client = (.ok info, client) := by
  simp only [onSession, taken]

/-- Nothing to take: `wait` or `get_msg` fails, or no answer has arrived. -/
theorem awaitReply_of_nothing {client : Client Channel}
    (nothing : circumstances.waitRc ≠ 0 ∨ circumstances.getRc ≠ 0 ∨
      client.session.replies = [] ∨
      client.session.arrived + circumstances.arrivals = 0) :
    ∃ rc, rc ≠ .noError ∧ awaitReply abi (sessionIpc abi circumstances) client =
      (.error rc, afterWait circumstances client) := by
  have waited : onSession (sessionIpc abi circumstances).wait client =
      (.ok circumstances.waitRc, afterWait circumstances client) := rfl
  rw [awaitReply, Exec.bind_of_ok waited]
  by_cases works : circumstances.waitRc = 0
  · have missing : circumstances.getRc ≠ 0 ∨
        (afterWait circumstances client).session.replies = [] ∨
        (afterWait circumstances client).session.arrived = 0 := by
      rcases nothing.resolve_left (not_not_intro works) with fails | empty | early
      · exact Or.inl fails
      · exact Or.inr (Or.inl empty)
      · refine Or.inr (Or.inr ?_)
        simp [afterWait, Channel.arrive, early]
    obtain ⟨info, failed, taken⟩ := getMsg_of_no_message abi circumstances missing
    rw [if_neg (not_not_intro works),
      Exec.bind_of_ok (onSession_getMsg abi circumstances taken), if_pos failed]
    exact ⟨.ipc info.rc, by simp, rfl⟩
  · rw [if_pos works]
    exact ⟨.ipc circumstances.waitRc, by simp, rfl⟩

/-- The oldest answer is taken if it has arrived. -/
theorem awaitReply_of_reply {client : Client Channel} {reply : Reply}
    (waits : circumstances.waitRc = 0) (gets : circumstances.getRc = 0)
    (oldest : client.session.replies.head? = some reply)
    (arrived : 0 < client.session.arrived + circumstances.arrivals) :
    awaitReply abi (sessionIpc abi circumstances) client =
      receive abi (sessionIpc abi circumstances) ⟨0, reply.tag, reply.bytes.length⟩
        (afterWait circumstances client) := by
  have waited : onSession (sessionIpc abi circumstances).wait client =
      (.ok circumstances.waitRc, afterWait circumstances client) := rfl
  have here : 0 < (afterWait circumstances client).session.arrived := by
    obtain ⟨rest, replies⟩ := List.head?_eq_some_iff.mp oldest
    simp only [afterWait, Channel.arrive, replies, List.length_cons]
    omega
  have waiting : (afterWait circumstances client).session.replies.head? = some reply :=
    oldest
  have taken := getMsg_of_message abi circumstances gets waiting here
  rw [awaitReply, Exec.bind_of_ok waited, if_neg (not_not_intro waits),
    Exec.bind_of_ok (onSession_getMsg abi circumstances taken)]
  rfl

/-- A request that waits for its answer takes the oldest one that has arrived. -/
theorem awaitReply_answered_iff (client : Client Channel) :
    (Answered client.rspBufLen
        (awaitReply abi (sessionIpc abi circumstances) client) ↔
      circumstances.waitRc = 0 ∧ circumstances.getRc = 0 ∧
        0 < client.session.arrived + circumstances.arrivals ∧
        ∃ reply, client.session.replies.head? = some reply ∧
          ReadWhole circumstances reply.bytes.length ∧
          Acceptable abi client.msg.cmd client.rspBufLen reply.bytes) ∧
      (Answered client.rspBufLen
          (awaitReply abi (sessionIpc abi circumstances) client) →
        (awaitReply abi (sessionIpc abi circumstances) client).2.session.read =
          client.session.replies.head?.map Reply.tag) := by
  by_cases nothing : circumstances.waitRc ≠ 0 ∨ circumstances.getRc ≠ 0 ∨
      client.session.replies = [] ∨
      client.session.arrived + circumstances.arrivals = 0
  · obtain ⟨rc, failed, stopped⟩ := awaitReply_of_nothing abi circumstances nothing
    rw [stopped]
    have unanswered : ¬ Answered client.rspBufLen
        (.error rc, afterWait circumstances client) := not_answered_of_error failed _
    refine ⟨iff_of_false unanswered ?_, fun answered => absurd answered unanswered⟩
    rintro ⟨waits, gets, arrived, reply, oldest, _⟩
    rcases nothing with fails | fails | empty | early
    · exact fails waits
    · exact fails gets
    · rw [empty] at oldest
      cases oldest
    · exact absurd early (Nat.ne_of_gt arrived)
  · simp only [not_or, not_not] at nothing
    rcases nothing with ⟨waits, gets, nonempty, late⟩
    obtain ⟨reply, rest, replies⟩ := List.exists_cons_of_ne_nil nonempty
    have oldest : client.session.replies.head? = some reply := by
      rw [replies, List.head?_cons]
    have arrived := Nat.pos_of_ne_zero late
    have waiting : (afterWait circumstances client).session.replies.head? =
        some reply := oldest
    let info : MsgInfo := ⟨0, reply.tag, reply.bytes.length⟩
    have length : info.len = reply.bytes.length := rfl
    have taken := receive_answered_iff abi circumstances waiting length
    rw [awaitReply_of_reply abi circumstances waits gets oldest arrived, oldest]
    refine ⟨taken.1.trans ?_, taken.2⟩
    constructor
    · rintro ⟨whole, acceptable⟩
      exact ⟨waits, gets, arrived, reply, rfl, whole, acceptable⟩
    · rintro ⟨_, _, _, other, same, whole, acceptable⟩
      cases same
      exact ⟨whole, acceptable⟩

/-! ## The request that is the call's own -/

theorem onSession_own {α : Type} {call : Channel → α × Channel} {own : Option Nat}
    (keeps : ∀ channel, (call channel).2.own = channel.own) :
    Exec.Preserves (fun client : Client Channel => client.session.own = own)
      (onSession call) :=
  fun client holds => (keeps client.session).trans holds

theorem checkReply_own (own : Option Nat) (cmdSent : BitVec 32) (readLen : Nat) :
    Exec.Preserves (fun client : Client Channel => client.session.own = own)
      (checkReply abi cmdSent readLen) := by
  intro client holds
  rw [checkReply_session]
  exact holds

theorem readReply_own (own : Option Nat) (info : MsgInfo) :
    Exec.Preserves (fun client : Client Channel => client.session.own = own)
      (readReply abi (sessionIpc abi circumstances) info) :=
  Exec.preserves_bind (Exec.preserves_gets _ _) fun cmdSent =>
    Exec.preserves_bind (Exec.preserves_gets _ _) fun _ =>
      Exec.preserves_bind (onSession_own fun _ => rfl) fun _ =>
        Exec.preserves_bind (Exec.preserves_modify fun _ holds => holds) fun _ =>
          Exec.preserves_bind (onSession_own fun _ => rfl) fun _ =>
            Exec.preserves_ite (Exec.preserves_stop _ _)
              (Exec.preserves_ite (Exec.preserves_stop _ _)
                (checkReply_own abi own cmdSent _))

theorem receive_own (own : Option Nat) (info : MsgInfo) :
    Exec.Preserves (fun client : Client Channel => client.session.own = own)
      (receive abi (sessionIpc abi circumstances) info) :=
  have refused (rc : Rc) :
      Exec.Preserves (fun client : Client Channel => client.session.own = own)
        (do
          onSession ((sessionIpc abi circumstances).putMsg info.id)
          Exec.stop rc : Exec Rc (Client Channel) Rc) :=
    Exec.preserves_bind (onSession_own fun _ => rfl) fun _ => Exec.preserves_stop _ rc
  Exec.preserves_bind (Exec.preserves_gets _ _) fun _ =>
    Exec.preserves_ite (refused .errTooBig)
      (Exec.preserves_ite (refused .errNotValid)
        (readReply_own abi circumstances own info))

theorem getMsg_own (channel : Channel) :
    ((sessionIpc abi circumstances).getMsg channel).2.own = channel.own := by
  simp only [sessionIpc]
  split
  · rfl
  · split <;> rfl

theorem awaitReply_own (own : Option Nat) :
    Exec.Preserves (fun client : Client Channel => client.session.own = own)
      (awaitReply abi (sessionIpc abi circumstances)) :=
  Exec.preserves_bind (onSession_own fun _ => rfl) fun _ =>
    Exec.preserves_ite (Exec.preserves_stop _ _)
      (Exec.preserves_bind (onSession_own (getMsg_own abi circumstances)) fun info =>
        Exec.preserves_ite (Exec.preserves_stop _ _)
          (receive_own abi circumstances own info))

/-- The session once the request has been sent, as far as it was. -/
def afterSend (channel : Channel) : Channel :=
  if circumstances.delivered then channel.accept circumstances.answer else channel

theorem afterSend_arrived (channel : Channel) :
    (afterSend circumstances channel).arrived = channel.arrived := by
  rw [afterSend]
  split <;> rfl

theorem sendReq_answered_iff (reqBuf : Memory (BitVec 8)) (client : Client Channel) :
    (Answered client.rspBufLen
        (sendReq abi (sessionIpc abi circumstances) reqBuf client.rspBufLen client) ↔
      ∃ reply, (afterSend circumstances client.session).replies.head? = some reply ∧
        Uninterrupted abi client.rspBufLen client.session.arrived circumstances
          reply.bytes.length ∧
        Acceptable abi client.msg.cmd client.rspBufLen reply.bytes) ∧
      (sendReq abi (sessionIpc abi circumstances) reqBuf client.rspBufLen
          client).2.session.own = (afterSend circumstances client.session).own ∧
      (Answered client.rspBufLen
          (sendReq abi (sessionIpc abi circumstances) reqBuf client.rspBufLen client) →
        (sendReq abi (sessionIpc abi circumstances) reqBuf client.rspBufLen
            client).2.session.read =
          (afterSend circumstances client.session).replies.head?.map Reply.tag) := by
  let waiting : Client Channel :=
    { client with session := afterSend circumstances client.session }
  have sent : onSession ((sessionIpc abi circumstances).sendMsg client.msg
      (reqBuf.read 0 client.rspBufLen.toNat)) client =
        (.ok circumstances.sendRc, waiting) := rfl
  rw [sendReq, Exec.gets_bind_apply, Exec.bind_of_ok sent]
  by_cases whole : circumstances.sendRc = (abi.sizeofMsg + client.rspBufLen.toNat : Nat)
  · have nonneg : ¬ circumstances.sendRc < 0 := by omega
    have exactLength : ¬ circumstances.sendRc.toNat ≠
        abi.sizeofMsg + client.rspBufLen.toNat := by omega
    rw [if_neg nonneg, if_neg exactLength]
    obtain ⟨answered, read⟩ := awaitReply_answered_iff abi circumstances waiting
    have arrived : waiting.session.arrived = client.session.arrived :=
      afterSend_arrived circumstances client.session
    rw [arrived] at answered
    refine ⟨answered.trans ?_, awaitReply_own abi circumstances _ waiting rfl, read⟩
    constructor
    · rintro ⟨waits, gets, arrived, reply, oldest, readWhole, acceptable⟩
      exact ⟨reply, oldest,
        ⟨whole, waits, arrived, gets, readWhole.1, readWhole.2⟩, acceptable⟩
    · rintro ⟨reply, oldest, smooth, acceptable⟩
      exact ⟨smooth.wait, smooth.get, smooth.present, reply, oldest,
        ⟨smooth.readNonneg, smooth.readWhole⟩, acceptable⟩
  · have stopped : ∃ rc, rc ≠ .noError ∧
        (if circumstances.sendRc < 0 then Exec.stop (.ipc circumstances.sendRc)
        else if circumstances.sendRc.toNat ≠
            abi.sizeofMsg + client.rspBufLen.toNat then
          Exec.stop .errIo
        else
          awaitReply abi (sessionIpc abi circumstances)) waiting =
            (.error rc, waiting) := by
      by_cases failed : circumstances.sendRc < 0
      · rw [if_pos failed]
        exact ⟨_, by simp, rfl⟩
      · have short : circumstances.sendRc.toNat ≠
            abi.sizeofMsg + client.rspBufLen.toNat := by omega
        rw [if_neg failed, if_pos short]
        exact ⟨.errIo, by decide, rfl⟩
    rcases stopped with ⟨rc, failed, stopped⟩
    rw [stopped]
    have unanswered : ¬ Answered client.rspBufLen (.error rc, waiting) :=
      not_answered_of_error failed _
    refine ⟨iff_of_false unanswered ?_, rfl,
      fun answered => absurd answered unanswered⟩
    rintro ⟨_, _, smooth, _⟩
    exact whole smooth.send

/-! ## Calls -/

theorem checkSize_rc_iff (size : BitVec 32) (left : Except Rc Rc × Client Channel) :
    (checkSize size (returned left.1) left.2).rc = .noError ↔ Answered size left := by
  rw [checkSize, Answered]
  by_cases ok : returned left.1 = .noError
  · rw [if_neg (not_not_intro ok), and_iff_right ok]
    by_cases same : size = left.2.rspBufLen
    · rw [if_neg (not_not_intro same)]
      exact iff_of_true ok same
    · have differs : Rc.errBadLen ≠ .noError := by decide
      rw [if_pos same]
      exact iff_of_false differs same
  · rw [if_pos ok]
    exact iff_of_false ok fun answered => ok answered.1

theorem checkSize_session (size : BitVec 32) (rc : Rc) (client : Client Channel) :
    (checkSize size rc client).session = client.session := by
  rw [checkSize]
  split
  · rfl
  · split <;> rfl

/-- An answer left behind that a call would take for its own. -/
def Confused (cmd size : BitVec 32) (channel : Channel) : Prop :=
  ∃ stale, channel.replies.head? = some stale ∧
    Uninterrupted abi size channel.arrived circumstances stale.bytes.length ∧
    Acceptable abi cmd size stale.bytes

theorem afterSend_oldest {channel : Channel} {stale : Reply}
    (oldest : channel.replies.head? = some stale) :
    (afterSend circumstances channel).replies.head? = some stale := by
  obtain ⟨rest, replies⟩ := List.head?_eq_some_iff.mp oldest
  rw [afterSend]
  split
  · rw [Channel.replies_accept, replies]
    rfl
  · exact oldest

/-- The number of a new request is not that of an answer left behind. -/
theorem afterSend_own_ne {channel : Channel} (begun : channel.own = none)
    {stale : Reply} (oldest : channel.replies.head? = some stale) :
    (afterSend circumstances channel).own ≠ some stale.tag := by
  have earlier := channel.answered stale (List.mem_of_mem_head? oldest)
  rw [afterSend]
  split
  · intro same
    exact absurd (Option.some.inj same) (Nat.ne_of_gt earlier)
  · rw [begun]
    exact Option.some_ne_none stale.tag ∘ Eq.symm

/-- A request gets the answer to itself exactly when no answer that was left
behind is taken for it. -/
theorem request_matched_iff {channel : Channel} (begun : channel.own = none)
    (cmd size : BitVec 32) (reqBuf rspBuf : Memory (BitVec 8)) :
    ((request abi (sessionIpc abi circumstances) cmd size reqBuf rspBuf
        channel).rc = .noError →
      ∃ tag, (request abi (sessionIpc abi circumstances) cmd size reqBuf rspBuf
          channel).session.own = some tag ∧
        (request abi (sessionIpc abi circumstances) cmd size reqBuf rspBuf
          channel).session.read = some tag) ↔
      ¬ Confused abi circumstances cmd size channel := by
  let client : Client Channel := ⟨channel, ⟨cmd, 0, size⟩, rspBuf, size⟩
  obtain ⟨answered, own, read⟩ := sendReq_answered_iff abi circumstances reqBuf client
  rw [request, checkSize_rc_iff, checkSize_session]
  rcases replies : channel.replies with _ | ⟨stale, rest⟩
  · have nothing : ¬ Confused abi circumstances cmd size channel := by
      rintro ⟨stale, oldest, _⟩
      rw [replies] at oldest
      cases oldest
    refine iff_of_true ?_ nothing
    intro success
    by_cases delivered : circumstances.delivered = true
    · have sent : afterSend circumstances channel =
          channel.accept circumstances.answer := if_pos delivered
      have queue : (channel.accept circumstances.answer).replies.head? =
          some ⟨channel.received, circumstances.answer⟩ := by
        rw [Channel.replies_accept, replies]
        rfl
      refine ⟨channel.received, own.trans ?_, (read success).trans ?_⟩
      · exact congrArg Channel.own sent
      · exact congrArg (Option.map Reply.tag)
          ((congrArg (fun channel => channel.replies.head?) sent).trans queue)
    · have sent : afterSend circumstances channel = channel := if_neg delivered
      obtain ⟨reply, oldest, _⟩ := answered.mp success
      have empty : channel.replies.head? = some reply :=
        (congrArg (fun channel => channel.replies.head?) sent).symm.trans oldest
      rw [replies] at empty
      cases empty
  · have oldest : channel.replies.head? = some stale := by
      rw [replies, List.head?_cons]
    have front := afterSend_oldest circumstances oldest
    constructor
    · rintro matched ⟨other, first, smooth, acceptable⟩
      cases oldest.symm.trans first
      have success := answered.mpr ⟨stale, front, smooth, acceptable⟩
      obtain ⟨tag, owned, took⟩ := matched success
      have tagged : some stale.tag = some tag :=
        (congrArg (Option.map Reply.tag) front).symm.trans ((read success).symm.trans took)
      exact absurd (own.symm.trans (owned.trans tagged.symm))
        (afterSend_own_ne circumstances begun oldest)
    · intro clear success
      obtain ⟨reply, first, smooth, acceptable⟩ := answered.mp success
      cases front.symm.trans first
      exact absurd ⟨stale, oldest, smooth, acceptable⟩ clear

/-- What a call asks for once its arguments are accepted. -/
structure Query where
  cmd : BitVec 32
  size : BitVec 32
  reqBuf : Memory (BitVec 8)
  rspBuf : Memory (BitVec 8)
  circumstances : Circumstances

/-- The query of a call; none if the call is refused before anything is sent. -/
def Call.query : Call → Option Query
  | .generateCryptoContext (some data) dataSize circumstances =>
      if dataSize = 0 then none
      else some ⟨abi.generateCryptoCtx, dataSize, data, data, circumstances⟩
  | .exchangeCryptoContext (some src) (some dst) dstSize circumstances =>
      if dstSize = 0 then none
      else some ⟨abi.exchangeCryptoCtx, dstSize, src, dst, circumstances⟩
  | .getSsek (some ssek) ssekSize circumstances =>
      if ssekSize = 0 then none
      else some ⟨abi.getSsek, ssekSize, ssek, ssek, circumstances⟩
  | _ => none

/-- The three calls are one request under different commands. -/
theorem perform_eq (channel : Channel) (call : Call) :
    (call.query abi = none ∧ (call.perform abi channel).rc = .errNotValid ∧
      (call.perform abi channel).session = channel) ∨
    ∃ query, call.query abi = some query ∧
      call.perform abi channel =
        request abi (sessionIpc abi query.circumstances) query.cmd query.size
          query.reqBuf query.rspBuf channel := by
  cases call with
  | generateCryptoContext data dataSize circumstances =>
      cases data with
      | none => exact Or.inl ⟨rfl, rfl, rfl⟩
      | some data =>
          simp only [Call.query, Call.perform, hwkeyGenerateCryptoContext]
          split
          · exact Or.inl ⟨rfl, rfl, rfl⟩
          · exact Or.inr ⟨_, rfl, rfl⟩
  | exchangeCryptoContext src dst dstSize circumstances =>
      cases src with
      | none => exact Or.inl ⟨rfl, rfl, rfl⟩
      | some src =>
          cases dst with
          | none => exact Or.inl ⟨rfl, rfl, rfl⟩
          | some dst =>
              simp only [Call.query, Call.perform, hwkeyExchangeCryptoContext]
              split
              · exact Or.inl ⟨rfl, rfl, rfl⟩
              · exact Or.inr ⟨_, rfl, rfl⟩
  | getSsek ssek ssekSize circumstances =>
      cases ssek with
      | none => exact Or.inl ⟨rfl, rfl, rfl⟩
      | some ssek =>
          simp only [Call.query, Call.perform, hwkeyGetSsek]
          split
          · exact Or.inl ⟨rfl, rfl, rfl⟩
          · exact Or.inr ⟨_, rfl, rfl⟩

/-- A call does not meet an answer that it would take for its own. -/
def Unconfused (history : History) (call : Call) : Prop :=
  ∀ query, call.query abi = some query →
    ¬ Confused abi query.circumstances query.cmd query.size history.channel

theorem matched_snoc_iff (channel : Channel) (earlier : List Finished)
    (last : Finished) :
    Matched ⟨channel, earlier ++ [last]⟩ ↔
      (∀ finished, finished ∈ earlier → finished.Matched) ∧ last.Matched :=
  forall_mem_snoc

/-- One call keeps the calls matched exactly when it is not confused. -/
theorem step_matched_iff (history : History) (call : Call) :
    Matched (step abi history call) ↔
      Matched history ∧ Unconfused abi history call := by
  rw [step, matched_snoc_iff]
  refine and_congr_right fun _ => ?_
  rcases perform_eq abi history.channel.beginCall call with
    ⟨refused, code, _⟩ | ⟨query, asked, performed⟩
  · refine iff_of_true ?_ ?_
    · intro success
      rw [code] at success
      cases success
    · intro query asked
      rw [refused] at asked
      cases asked
  · rw [performed]
    have single : Unconfused abi history call ↔
        ¬ Confused abi query.circumstances query.cmd query.size history.channel := by
      constructor
      · intro clear
        exact clear query asked
      · intro clear other same
        cases asked.symm.trans same
        exact clear
    rw [single]
    exact request_matched_iff abi query.circumstances rfl query.cmd query.size
      query.reqBuf query.rspBuf

/-- Over every run of calls, every call that returns without error has accepted
the answer to its own request, exactly when no call meets an answer left behind
that it would take for its own. -/
theorem calls_matched_iff (calls : List Call) :
    Matched (run (step abi) History.start calls) ↔
      Along (step abi) (Unconfused abi) History.start calls := by
  have nothing : Matched History.start := by
    intro finished member
    cases member
  exact (run_iff_along Matched (step_matched_iff abi) History.start calls).trans
    (and_iff_right nothing)

/-- The word at an offset of a message. -/
def wordAt (bytes : List (BitVec 8)) (start : Nat) : BitVec 32 :=
  Word.ofBytes (bytes.getD start 0) (bytes.getD (start + 1) 0)
    (bytes.getD (start + 2) 0) (bytes.getD (start + 3) 0)

/-- The interface of the key service: five words of header, of which the first is
the command and the third the status. -/
def hwkeyAbi : Abi where
  sizeofMsg := 20
  decode bytes := ⟨wordAt bytes 0, wordAt bytes 8, wordAt bytes 12⟩
  reqShift := 1
  respBit := 1
  hwkeyNoError := 0
  hwkeyErrNotValid := 2
  hwkeyErrBadLen := 3
  hwkeyErrNotImplemented := 4
  hwkeyErrNotFound := 5

/-- A call for a context of one byte, which the server answers with `byte`. -/
def contextCall (waitRc : Int) (byte : BitVec 8) : Call :=
  .generateCryptoContext (some fun _ => 0) 1
    { sendRc := 21
      delivered := true
      answer := [255, 0, 0, 0] ++ List.replicate 16 0 ++ [byte]
      arrivals := 1
      waitRc := waitRc
      getRc := 0
      readRc := none }

/-- After a call that failed while it waited, the same call again takes the answer
to the first one. -/
theorem second_call_takes_first_answer :
    ¬ Matched (run (step hwkeyAbi) History.start
      [contextCall (-1) 1, contextCall 0 2]) := by
  intro matched
  have finished : (run (step hwkeyAbi) History.start
      [contextCall (-1) 1, contextCall 0 2]).finished =
        [⟨.ipc (-1), some 0, none⟩, ⟨.noError, some 1, some 0⟩] := by
    decide +kernel
  have last : (⟨.noError, some 1, some 0⟩ : Finished).Matched := by
    refine matched _ ?_
    rw [finished]
    exact List.mem_cons_of_mem _ List.mem_cons_self
  obtain ⟨tag, own, read⟩ := last rfl
  cases own
  cases read

end SandPlatform.HwkeyMigration
