import SandPlatform.HwkeyMigration.Matching

/-!
# Messages of a call

The kernel calls that a request makes are written down beside the session.  Every
message that is taken is given back once, no reading has more room than the
caller's buffer, and a request that returns without error has read the whole of
one message of the right length, command and status into that buffer.
-/

namespace SandPlatform.HwkeyMigration

open SandPlatform.Foundation

universe u

/-! ## Observed calls -/

/-- A kernel call and what came of it. -/
inductive IpcEvent
  | sent (msg : HwkeyMsg) (bytes : List (BitVec 8)) (rc : Int)
  | waited (rc : Int)
  | got (info : MsgInfo)
  | read (id room : Nat) (result : ReadResult)
  | put (id : Nat)

variable {σ : Type u}

/-- A kernel call with its event written down behind the earlier ones. -/
def noted {α : Type} (event : α → IpcEvent) (call : σ → α × σ)
    (session : σ × List IpcEvent) : α × σ × List IpcEvent :=
  ((call session.1).1, (call session.1).2, session.2 ++ [event (call session.1).1])

/-- The kernel calls, written down in the order in which they are made. -/
def Ipc.observed (ipc : Ipc σ) : Ipc (σ × List IpcEvent) where
  sendMsg msg bytes := noted (.sent msg bytes) (ipc.sendMsg msg bytes)
  wait := noted .waited ipc.wait
  getMsg := noted .got ipc.getMsg
  readMsg id room := noted (.read id room) (ipc.readMsg id room)
  putMsg id := noted (fun _ => .put id) (ipc.putMsg id)

/-- The identifier of a message that `get_msg` has taken. -/
def IpcEvent.taken : IpcEvent → Option Nat
  | .got info => if info.rc = 0 then some info.id else none
  | _ => none

/-- The identifier of a message that is given back. -/
def IpcEvent.returned : IpcEvent → Option Nat
  | .put id => some id
  | _ => none

/-- What the request still holds is given back, together with all it takes, and
nothing else; no reading has more than `room`. -/
structure Tidy (room : Nat) (held : List Nat) (events : List IpcEvent) : Prop where
  released : events.filterMap IpcEvent.returned = held ++ events.filterMap IpcEvent.taken
  bounded : ∀ id offered result, IpcEvent.read id offered result ∈ events → offered ≤ room

/-- What is known of `read_msg`: it counts the bytes it has stored, first those of
the header. -/
def Ipc.CountsStored (abi : Abi) (ipc : Ipc σ) : Prop :=
  ∀ id room session, 0 ≤ (ipc.readMsg id room session).1.rc →
    (ipc.readMsg id room session).1.rc.toNat ≤ abi.sizeofMsg + room ∧
      (ipc.readMsg id room session).1.payload.length =
        (ipc.readMsg id room session).1.rc.toNat - abi.sizeofMsg

/-- A message that was accepted as the answer to a command, with a payload of
`size` bytes that is all of the output. -/
structure Accepted (abi : Abi) (ipc : Ipc σ) (cmd size : BitVec 32) (info : MsgInfo)
    (result : ReadResult) (rspBuf : Memory (BitVec 8)) : Prop where
  length : info.len = abi.sizeofMsg + size.toNat
  command : result.header.cmd = cmd ||| abi.respBit
  status : result.header.status = abi.hwkeyNoError
  whole : ipc.CountsStored abi → result.rc = info.len
  output : ipc.CountsStored abi → rspBuf.read 0 size.toNat = result.payload

/-! ## Observing changes nothing -/

/-- The same client, once with the record and once without. -/
def SameClient (observed : Client (σ × List IpcEvent)) (client : Client σ) : Prop :=
  observed.session.1 = client.session ∧ observed.msg = client.msg ∧
    observed.rspBuf = client.rspBuf ∧ observed.rspBufLen = client.rspBufLen

variable (abi : Abi) (ipc : Ipc σ)

theorem simulates_noted {α : Type} (event : α → IpcEvent) (call : σ → α × σ) :
    Exec.Simulates SameClient
      (onSession (noted event call) : Exec Rc (Client (σ × List IpcEvent)) α)
      (onSession call) := by
  rintro observed client ⟨session, msg, rspBuf, rspBufLen⟩
  constructor
  · simp only [onSession, noted, session]
  · simp only [onSession, noted, session]
    exact ⟨rfl, msg, rspBuf, rspBufLen⟩

theorem simulates_checkReply (cmdSent : BitVec 32) (readLen : Nat) :
    Exec.Simulates SameClient
      (checkReply abi cmdSent readLen : Exec Rc (Client (σ × List IpcEvent)) Rc)
      (checkReply abi cmdSent readLen) := by
  refine Exec.Simulates.bind (Exec.simulates_gets fun _ _ same => same.2.1) fun msg => ?_
  refine Exec.simulates_ite (Exec.simulates_stop _ _) ?_
  refine Exec.Simulates.bind (Exec.simulates_modify ?_) fun _ => Exec.simulates_pure _ _
  rintro observed client ⟨session, msg, rspBuf, _⟩
  exact ⟨session, msg, rspBuf, rfl⟩

theorem simulates_readReply (info : MsgInfo) :
    Exec.Simulates SameClient (readReply abi ipc.observed info)
      (readReply abi ipc info) := by
  refine Exec.Simulates.bind
    (Exec.simulates_gets fun _ _ same => congrArg HwkeyMsg.cmd same.2.1) fun cmdSent => ?_
  refine Exec.Simulates.bind
    (Exec.simulates_gets fun _ _ same => congrArg BitVec.toNat same.2.2.2) fun room => ?_
  refine Exec.Simulates.bind (simulates_noted _ _) fun result => ?_
  refine Exec.Simulates.bind (Exec.simulates_modify ?_) fun _ => ?_
  · rintro observed client ⟨session, _, rspBuf, rspBufLen⟩
    exact ⟨session, rfl, by simp only [Client.store, rspBuf], rspBufLen⟩
  refine Exec.Simulates.bind (simulates_noted _ _) fun _ => ?_
  refine Exec.simulates_ite (Exec.simulates_stop _ _) ?_
  exact Exec.simulates_ite (Exec.simulates_stop _ _) (simulates_checkReply abi _ _)

theorem simulates_receive (info : MsgInfo) :
    Exec.Simulates SameClient (receive abi ipc.observed info) (receive abi ipc info) := by
  have givesBack (rc : Rc) : Exec.Simulates SameClient
      (do onSession (ipc.observed.putMsg info.id); Exec.stop rc :
        Exec Rc (Client (σ × List IpcEvent)) Rc)
      (do onSession (ipc.putMsg info.id); Exec.stop rc) :=
    Exec.Simulates.bind (simulates_noted _ _) fun _ => Exec.simulates_stop _ _
  refine Exec.Simulates.bind
    (Exec.simulates_gets fun _ _ same => congrArg BitVec.toNat same.2.2.2) fun room => ?_
  refine Exec.simulates_ite (givesBack .errTooBig) ?_
  exact Exec.simulates_ite (givesBack .errNotValid) (simulates_readReply abi ipc info)

theorem simulates_sendReq (reqBuf : Memory (BitVec 8)) (reqBufLen : BitVec 32) :
    Exec.Simulates SameClient (sendReq abi ipc.observed reqBuf reqBufLen)
      (sendReq abi ipc reqBuf reqBufLen) := by
  have waits : Exec.Simulates SameClient (awaitReply abi ipc.observed)
      (awaitReply abi ipc) := by
    refine Exec.Simulates.bind (simulates_noted _ _) fun rc => ?_
    refine Exec.simulates_ite (Exec.simulates_stop _ _) ?_
    refine Exec.Simulates.bind (simulates_noted _ _) fun info => ?_
    exact Exec.simulates_ite (Exec.simulates_stop _ _) (simulates_receive abi ipc info)
  refine Exec.Simulates.bind (Exec.simulates_gets fun _ _ same => same.2.1) fun msg => ?_
  refine Exec.Simulates.bind (simulates_noted _ _) fun rc => ?_
  refine Exec.simulates_ite (Exec.simulates_stop _ _) ?_
  exact Exec.simulates_ite (Exec.simulates_stop _ _) waits

/-- A request returns and stores the same whether it is observed or not. -/
theorem observed_request (cmd size : BitVec 32) (reqBuf rspBuf : Memory (BitVec 8))
    (session : σ) (events : List IpcEvent) :
    (request abi ipc.observed cmd size reqBuf rspBuf (session, events)).rc =
        (request abi ipc cmd size reqBuf rspBuf session).rc ∧
      (request abi ipc.observed cmd size reqBuf rspBuf (session, events)).rspBuf =
        (request abi ipc cmd size reqBuf rspBuf session).rspBuf ∧
      (request abi ipc.observed cmd size reqBuf rspBuf (session, events)).session.1 =
        (request abi ipc cmd size reqBuf rspBuf session).session := by
  have alike := simulates_sendReq abi ipc reqBuf size
    ⟨(session, events), ⟨cmd, 0, size⟩, rspBuf, size⟩ ⟨session, ⟨cmd, 0, size⟩, rspBuf, size⟩
    ⟨rfl, rfl, rfl, rfl⟩
  obtain ⟨outcome, sessions, _, buffers, lengths⟩ := alike
  simp only [request, checkSize, outcome, lengths]
  split
  · exact ⟨rfl, buffers, sessions⟩
  · split
    · exact ⟨rfl, buffers, sessions⟩
    · exact ⟨rfl, buffers, sessions⟩

/-! ## One message -/

variable {abi ipc}

theorem tidy_nil (room : Nat) : Tidy room [] [] := by
  constructor
  · rfl
  · simp

theorem tidy_put (room id : Nat) : Tidy room [id] [.put id] := by
  constructor
  · rfl
  · simp

theorem tidy_read_put (room id : Nat) (result : ReadResult) :
    Tidy room [id] [.read id room result, .put id] := by
  constructor
  · rfl
  · simp +contextual

/-- An event in front that gives nothing back and reads nothing. -/
theorem Tidy.cons {room : Nat} {event : IpcEvent} {events : List IpcEvent}
    (kept : event.returned = none)
    (unread : ∀ id offered result, event ≠ .read id offered result)
    (tidy : Tidy room event.taken.toList events) : Tidy room [] (event :: events) := by
  constructor
  · rw [List.filterMap_cons_none kept, tidy.released, List.filterMap_cons]
    cases event.taken <;> rfl
  · intro id offered result member
    rcases List.mem_cons.mp member with first | later
    · exact absurd first.symm (unread id offered result)
    · exact tidy.bounded id offered result later

/-- `send_req` was left without error, and with the length it was asked for. -/
def Succeeded (size : BitVec 32) (left : Except Rc Rc × Client σ) : Prop :=
  returned left.1 = .noError ∧ size = left.2.rspBufLen

theorem not_succeeded_of_error {size : BitVec 32} {rc : Rc} (failed : rc ≠ .noError)
    (client : Client σ) : ¬ Succeeded size (.error rc, client) :=
  fun succeeded => failed succeeded.1

variable (abi) in
/-- The check of a header reads the client and at most sets the length. -/
theorem checkReply_ends (cmdSent size : BitVec 32) (readLen : Nat) (client : Client σ) :
    (checkReply abi cmdSent readLen client).2.session = client.session ∧
      (checkReply abi cmdSent readLen client).2.rspBuf = client.rspBuf ∧
      (Succeeded size (checkReply abi cmdSent readLen client) →
        client.msg.cmd = cmdSent ||| abi.respBit ∧
          client.msg.status = abi.hwkeyNoError ∧
          size = BitVec.ofNat 32 (readLen - abi.sizeofMsg)) := by
  rw [checkReply, Exec.gets_bind_apply]
  by_cases command : client.msg.cmd = cmdSent ||| abi.respBit
  · rw [if_neg (not_not_intro command), Exec.modify_bind_apply]
    refine ⟨rfl, rfl, ?_⟩
    rintro ⟨status, same⟩
    exact ⟨command, (hwkeyErrToTipcErr_eq_noError_iff abi _).mp status, same⟩
  · rw [if_pos command]
    exact ⟨rfl, rfl, fun succeeded => absurd succeeded (not_succeeded_of_error (by decide) _)⟩

/-- A reading that was checked for its length and its header is an accepted
answer. -/
theorem accepted_of_checks {client : Client (σ × List IpcEvent)} {info : MsgInfo}
    {result : ReadResult}
    (read : result =
      (ipc.readMsg info.id client.rspBufLen.toNat client.session.1).1)
    (long : ¬ abi.sizeofMsg + client.rspBufLen.toNat < info.len)
    (short : ¬ info.len < abi.sizeofMsg) (nonneg : ¬ result.rc < 0)
    (whole : result.rc.toNat % 2 ^ 32 = info.len)
    (command : result.header.cmd = client.msg.cmd ||| abi.respBit)
    (status : result.header.status = abi.hwkeyNoError)
    (size : client.rspBufLen = BitVec.ofNat 32 (info.len - abi.sizeofMsg)) :
    Accepted abi ipc client.msg.cmd client.rspBufLen info result
      (client.store result).rspBuf := by
  have length := (length_iff abi).mpr ⟨long, short, size⟩
  have counted (counts : ipc.CountsStored abi) : result.rc.toNat = info.len ∧
      result.payload.length = client.rspBufLen.toNat := by
    have stored := counts info.id client.rspBufLen.toNat client.session.1
    rw [← read] at stored
    obtain ⟨most, payload⟩ := stored (Int.not_lt.mp nonneg)
    -- The reading is no longer than the message, so its length was not cut off.
    have same : result.rc.toNat = info.len := by
      rw [← length] at most
      have least := Nat.mod_le result.rc.toNat (2 ^ 32)
      omega
    rw [same, length, Nat.add_sub_cancel_left] at payload
    exact ⟨same, payload⟩
  refine ⟨length, command, status, ?_, ?_⟩
  · intro counts
    rw [← (counted counts).1, Int.toNat_of_nonneg (Int.not_lt.mp nonneg)]
  · intro counts
    rw [Client.store, ← (counted counts).2, Memory.read_copy]
    exact Memory.read_ofList

variable (abi ipc)

/-- The reading is written down with the room it had, the message is given back,
and if all checks pass the message was accepted. -/
theorem readReply_ends {info : MsgInfo} {client : Client (σ × List IpcEvent)}
    (long : ¬ abi.sizeofMsg + client.rspBufLen.toNat < info.len)
    (short : ¬ info.len < abi.sizeofMsg) :
    ∃ result, (readReply abi ipc.observed info client).2.session.2 =
        client.session.2 ++ [.read info.id client.rspBufLen.toNat result, .put info.id] ∧
      (Succeeded client.rspBufLen (readReply abi ipc.observed info client) →
        Accepted abi ipc client.msg.cmd client.rspBufLen info result
          (readReply abi ipc.observed info client).2.rspBuf) := by
  let result := (ipc.readMsg info.id client.rspBufLen.toNat client.session.1).1
  let done : Client (σ × List IpcEvent) :=
    { client.store result with
      session := (noted (fun _ => IpcEvent.put info.id) (ipc.putMsg info.id)
        (noted (IpcEvent.read info.id client.rspBufLen.toNat)
          (ipc.readMsg info.id client.rspBufLen.toNat) client.session).2).2 }
  have events : done.session.2 = client.session.2 ++
      [.read info.id client.rspBufLen.toNat result, .put info.id] :=
    List.append_assoc _ _ _
  have run : readReply abi ipc.observed info client =
      (if result.rc < 0 then Exec.stop (.ipc result.rc)
      else if result.rc.toNat % 2 ^ 32 ≠ info.len then Exec.stop .errIo
      else checkReply abi client.msg.cmd (result.rc.toNat % 2 ^ 32)) done := rfl
  refine ⟨result, ?_⟩
  rw [run]
  by_cases failed : result.rc < 0
  · rw [if_pos failed]
    exact ⟨events, fun succeeded => absurd succeeded (not_succeeded_of_error (by simp) _)⟩
  · rw [if_neg failed]
    by_cases whole : result.rc.toNat % 2 ^ 32 = info.len
    · obtain ⟨session, rspBuf, checked⟩ := checkReply_ends abi client.msg.cmd
        client.rspBufLen (result.rc.toNat % 2 ^ 32) done
      rw [if_neg (not_not_intro whole), session, rspBuf]
      refine ⟨events, fun succeeded => ?_⟩
      obtain ⟨command, status, size⟩ := checked succeeded
      rw [whole] at size
      exact accepted_of_checks rfl long short failed whole command status size
    · rw [if_pos whole]
      exact ⟨events,
        fun succeeded => absurd succeeded (not_succeeded_of_error (by decide) _)⟩

/-- A message that was taken is given back, read or not. -/
theorem receive_ends (info : MsgInfo) (client : Client (σ × List IpcEvent)) :
    ∃ events, (receive abi ipc.observed info client).2.session.2 =
        client.session.2 ++ events ∧
      Tidy client.rspBufLen.toNat [info.id] events ∧
      (Succeeded client.rspBufLen (receive abi ipc.observed info client) →
        ∃ result, events = [.read info.id client.rspBufLen.toNat result, .put info.id] ∧
          Accepted abi ipc client.msg.cmd client.rspBufLen info result
            (receive abi ipc.observed info client).2.rspBuf) := by
  let room := client.rspBufLen.toNat
  let back : Client (σ × List IpcEvent) :=
    { client with
      session := (noted (fun _ => IpcEvent.put info.id) (ipc.putMsg info.id)
        client.session).2 }
  have run : receive abi ipc.observed info client =
      if abi.sizeofMsg + room < info.len then (.error .errTooBig, back)
      else if info.len < abi.sizeofMsg then (.error .errNotValid, back)
      else readReply abi ipc.observed info client := by
    rw [receive, Exec.gets_bind_apply]
    split
    · rfl
    · split <;> rfl
  have unread (rc : Rc) (failed : rc ≠ .noError) :
      ∃ events, back.session.2 = client.session.2 ++ events ∧
        Tidy room [info.id] events ∧
        (Succeeded client.rspBufLen (.error rc, back) →
          ∃ result, events = [.read info.id room result, .put info.id] ∧
            Accepted abi ipc client.msg.cmd client.rspBufLen info result back.rspBuf) :=
    ⟨[.put info.id], rfl, tidy_put _ _,
      fun succeeded => absurd succeeded (not_succeeded_of_error failed _)⟩
  rw [run]
  by_cases long : abi.sizeofMsg + room < info.len
  · rw [if_pos long]
    exact unread .errTooBig (by decide)
  · rw [if_neg long]
    by_cases short : info.len < abi.sizeofMsg
    · rw [if_pos short]
      exact unread .errNotValid (by decide)
    · rw [if_neg short]
      obtain ⟨result, events, accepted⟩ := readReply_ends abi ipc long short
      exact ⟨_, events, tidy_read_put _ _ _, fun succeeded =>
        ⟨result, rfl, accepted succeeded⟩⟩

theorem awaitReply_ends (client : Client (σ × List IpcEvent)) :
    ∃ events, (awaitReply abi ipc.observed client).2.session.2 =
        client.session.2 ++ events ∧
      Tidy client.rspBufLen.toNat [] events ∧
      (Succeeded client.rspBufLen (awaitReply abi ipc.observed client) →
        ∃ info result, events = [.waited 0, .got info,
            .read info.id client.rspBufLen.toNat result, .put info.id] ∧
          Accepted abi ipc client.msg.cmd client.rspBufLen info result
            (awaitReply abi ipc.observed client).2.rspBuf) := by
  let rc := (ipc.wait client.session.1).1
  let waited : Client (σ × List IpcEvent) :=
    { client with session := (noted IpcEvent.waited ipc.wait client.session).2 }
  let info := (ipc.getMsg waited.session.1).1
  let got : Client (σ × List IpcEvent) :=
    { waited with session := (noted IpcEvent.got ipc.getMsg waited.session).2 }
  have run : awaitReply abi ipc.observed client =
      if rc ≠ 0 then (.error (.ipc rc), waited)
      else if info.rc ≠ 0 then (.error (.ipc info.rc), got)
      else receive abi ipc.observed info got := by
    have first : awaitReply abi ipc.observed client =
        (if rc ≠ 0 then Exec.stop (.ipc rc)
        else do
          let info ← onSession ipc.observed.getMsg
          if info.rc ≠ 0 then
            Exec.stop (.ipc info.rc)
          else
            receive abi ipc.observed info) waited := rfl
    have second : ∀ next : MsgInfo → Exec Rc (Client (σ × List IpcEvent)) Rc,
        (onSession ipc.observed.getMsg >>= next) waited = next info got :=
      fun _ => rfl
    rw [first]
    split
    · rfl
    · rw [second]
      split <;> rfl
  rw [run]
  by_cases failed : rc ≠ 0
  · rw [if_pos failed]
    refine ⟨[.waited rc], rfl, Tidy.cons rfl (by simp) (tidy_nil _), ?_⟩
    exact fun succeeded => absurd succeeded (not_succeeded_of_error (by simp) _)
  · rw [if_neg failed]
    by_cases empty : info.rc ≠ 0
    · rw [if_pos empty]
      have untaken : (IpcEvent.got info).taken = none := if_neg empty
      refine ⟨[.waited rc, .got info], List.append_assoc _ _ _,
        Tidy.cons rfl (by simp) (Tidy.cons rfl (by simp) ?_), ?_⟩
      · rw [untaken]
        exact tidy_nil _
      · exact fun succeeded => absurd succeeded (not_succeeded_of_error (by simp) _)
    · rw [if_neg empty]
      have taken : (IpcEvent.got info).taken = some info.id :=
        if_pos (Decidable.not_not.mp empty)
      obtain ⟨events, written, tidy, accepted⟩ := receive_ends abi ipc info got
      refine ⟨.waited rc :: .got info :: events, ?_,
        Tidy.cons rfl (by simp) (Tidy.cons rfl (by simp) ?_), ?_⟩
      · rw [written]
        simp [got, waited, noted, rc, info]
      · rw [taken]
        exact tidy
      · intro succeeded
        obtain ⟨result, read, accepts⟩ := accepted succeeded
        exact ⟨info, result, by rw [read, Decidable.not_not.mp failed], accepts⟩

/-! ## Whole calls -/

/-- The events of a call that returned without error. -/
def exchange (msg : HwkeyMsg) (bytes : List (BitVec 8)) (rc : Int) (info : MsgInfo)
    (room : Nat) (result : ReadResult) : List IpcEvent :=
  [.sent msg bytes rc, .waited 0, .got info, .read info.id room result, .put info.id]

theorem sendReq_ends (reqBuf : Memory (BitVec 8)) (client : Client (σ × List IpcEvent)) :
    ∃ events, (sendReq abi ipc.observed reqBuf client.rspBufLen client).2.session.2 =
        client.session.2 ++ events ∧
      Tidy client.rspBufLen.toNat [] events ∧
      (Succeeded client.rspBufLen
          (sendReq abi ipc.observed reqBuf client.rspBufLen client) →
        ∃ bytes rc info result,
          events = exchange client.msg bytes rc info client.rspBufLen.toNat result ∧
          Accepted abi ipc client.msg.cmd client.rspBufLen info result
            (sendReq abi ipc.observed reqBuf client.rspBufLen client).2.rspBuf) := by
  let bytes := reqBuf.read 0 client.rspBufLen.toNat
  let rc := (ipc.sendMsg client.msg bytes client.session.1).1
  let sent : Client (σ × List IpcEvent) :=
    { client with
      session := (noted (IpcEvent.sent client.msg bytes)
        (ipc.sendMsg client.msg bytes) client.session).2 }
  have run : sendReq abi ipc.observed reqBuf client.rspBufLen client =
      if rc < 0 then (.error (.ipc rc), sent)
      else if rc.toNat ≠ abi.sizeofMsg + client.rspBufLen.toNat then (.error .errIo, sent)
      else awaitReply abi ipc.observed sent := by
    have first : sendReq abi ipc.observed reqBuf client.rspBufLen client =
        (if rc < 0 then Exec.stop (.ipc rc)
        else if rc.toNat ≠ abi.sizeofMsg + client.rspBufLen.toNat then Exec.stop .errIo
        else awaitReply abi ipc.observed) sent := rfl
    rw [first]
    split
    · rfl
    · split <;> rfl
  have unsent (code : Rc) (failed : code ≠ .noError) :
      ∃ events, sent.session.2 = client.session.2 ++ events ∧
        Tidy client.rspBufLen.toNat [] events ∧
        (Succeeded client.rspBufLen (.error code, sent) →
          ∃ bytes rc info result,
            events = exchange client.msg bytes rc info client.rspBufLen.toNat result ∧
            Accepted abi ipc client.msg.cmd client.rspBufLen info result sent.rspBuf) :=
    ⟨[.sent client.msg bytes rc], rfl, Tidy.cons rfl (by simp) (tidy_nil _),
      fun succeeded => absurd succeeded (not_succeeded_of_error failed _)⟩
  rw [run]
  by_cases failed : rc < 0
  · rw [if_pos failed]
    exact unsent (.ipc rc) (by simp)
  · rw [if_neg failed]
    by_cases short : rc.toNat ≠ abi.sizeofMsg + client.rspBufLen.toNat
    · rw [if_pos short]
      exact unsent .errIo (by decide)
    · rw [if_neg short]
      obtain ⟨events, written, tidy, accepted⟩ := awaitReply_ends abi ipc sent
      refine ⟨.sent client.msg bytes rc :: events, ?_, Tidy.cons rfl (by simp) tidy, ?_⟩
      · rw [written]
        exact List.append_assoc _ _ _
      · intro succeeded
        obtain ⟨info, result, read, accepts⟩ := accepted succeeded
        exact ⟨bytes, rc, info, result, congrArg _ read, accepts⟩

/-- A call gives back once what it takes, stays within the caller's buffer, and
returns without error only with the accepted answer to what it sent. -/
structure Disciplined (size : BitVec 32) (outcome : Outcome (σ × List IpcEvent)) :
    Prop where
  tidy : Tidy size.toNat [] outcome.session.2
  accepted : outcome.rc = .noError → ∃ msg bytes rc info result,
    outcome.session.2 = exchange msg bytes rc info size.toNat result ∧
      Accepted abi ipc msg.cmd size info result outcome.rspBuf

/-- The size check adds that the length came back unchanged. -/
theorem checkSize_ends (size : BitVec 32) (left : Except Rc Rc × Client σ) :
    (checkSize size (returned left.1) left.2).session = left.2.session ∧
      (checkSize size (returned left.1) left.2).rspBuf = left.2.rspBuf ∧
      ((checkSize size (returned left.1) left.2).rc = .noError → Succeeded size left) := by
  rw [checkSize]
  by_cases ok : returned left.1 = .noError
  · rw [if_neg (not_not_intro ok)]
    by_cases same : size = left.2.rspBufLen
    · rw [if_neg (not_not_intro same)]
      exact ⟨rfl, rfl, fun _ => ⟨ok, same⟩⟩
    · rw [if_pos same]
      exact ⟨rfl, rfl, fun success => by cases success⟩
  · rw [if_pos ok]
    exact ⟨rfl, rfl, fun success => absurd success ok⟩

theorem request_disciplined (cmd size : BitVec 32) (reqBuf rspBuf : Memory (BitVec 8))
    (session : σ) :
    Disciplined abi ipc size
      (request abi ipc.observed cmd size reqBuf rspBuf (session, [])) := by
  let client : Client (σ × List IpcEvent) := ⟨(session, []), ⟨cmd, 0, size⟩, rspBuf, size⟩
  obtain ⟨events, written, tidy, accepted⟩ := sendReq_ends abi ipc reqBuf client
  obtain ⟨sessions, buffers, succeeds⟩ :=
    checkSize_ends size (sendReq abi ipc.observed reqBuf size client)
  rw [List.nil_append] at written
  constructor
  · rw [request, sessions, written]
    exact tidy
  · intro success
    obtain ⟨bytes, rc, info, result, exchanged, accepts⟩ := accepted (succeeds success)
    refine ⟨⟨cmd, 0, size⟩, bytes, rc, info, result, ?_, ?_⟩
    · rw [request, sessions, written]
      exact exchanged
    · rw [request, buffers]
      exact accepts

theorem refused_disciplined (size : BitVec 32) (rspBuf : Option (Memory (BitVec 8)))
    (session : σ) : Disciplined abi ipc size (refused rspBuf (session, [])) := by
  constructor
  · exact tidy_nil _
  · intro success
    cases success

/-- Each of the three calls is disciplined, whatever the kernel does. -/
theorem calls_disciplined (session : σ) :
    (∀ data size, Disciplined abi ipc size
        (hwkeyGenerateCryptoContext abi ipc.observed data size (session, []))) ∧
      (∀ src dst size, Disciplined abi ipc size
        (hwkeyExchangeCryptoContext abi ipc.observed src dst size (session, []))) ∧
      (∀ ssek size, Disciplined abi ipc size
        (hwkeyGetSsek abi ipc.observed ssek size (session, []))) := by
  refine ⟨?_, ?_, ?_⟩
  · intro data size
    cases data with
    | none => exact refused_disciplined abi ipc _ _ session
    | some data =>
        rw [hwkeyGenerateCryptoContext]
        split
        · exact refused_disciplined abi ipc _ _ session
        · exact request_disciplined abi ipc _ _ _ _ session
  · intro src dst size
    cases src with
    | none => exact refused_disciplined abi ipc _ _ session
    | some src =>
        cases dst with
        | none => exact refused_disciplined abi ipc _ _ session
        | some dst =>
            rw [hwkeyExchangeCryptoContext]
            split
            · exact refused_disciplined abi ipc _ _ session
            · exact request_disciplined abi ipc _ _ _ _ session
  · intro ssek size
    cases ssek with
    | none => exact refused_disciplined abi ipc _ _ session
    | some ssek =>
        rw [hwkeyGetSsek]
        split
        · exact refused_disciplined abi ipc _ _ session
        · exact request_disciplined abi ipc _ _ _ _ session

/-- A session counts what it stores unless `read_msg` falls short. -/
theorem sessionIpc_countsStored {circumstances : Circumstances}
    (whole : circumstances.readRc = none) :
    (sessionIpc abi circumstances).CountsStored abi := by
  intro id room session _
  simp only [sessionIpc, whole, Option.getD_none, Int.toNat_natCast, List.length_take,
    List.length_drop]
  omega

/-- The answer to a request for one byte, at hand when it is waited for. -/
def promptAnswer : Circumstances where
  sendRc := 21
  delivered := true
  answer := [255, 0, 0, 0] ++ List.replicate 16 0 ++ [7]
  arrivals := 1
  waitRc := 0
  getRc := 0
  readRc := none

/-- A call that succeeds on a session that counts what it stores. -/
theorem promptAnswer_disciplined :
    (sessionIpc hwkeyAbi promptAnswer).CountsStored hwkeyAbi ∧
      (hwkeyGenerateCryptoContext hwkeyAbi (sessionIpc hwkeyAbi promptAnswer).observed
        (some fun _ => 0) 1 (Channel.start, [])).rc = .noError ∧
      Disciplined hwkeyAbi (sessionIpc hwkeyAbi promptAnswer) 1
        (hwkeyGenerateCryptoContext hwkeyAbi (sessionIpc hwkeyAbi promptAnswer).observed
          (some fun _ => 0) 1 (Channel.start, [])) :=
  ⟨sessionIpc_countsStored hwkeyAbi rfl, by decide +kernel,
    (calls_disciplined hwkeyAbi (sessionIpc hwkeyAbi promptAnswer) Channel.start).1 _ _⟩

end SandPlatform.HwkeyMigration
