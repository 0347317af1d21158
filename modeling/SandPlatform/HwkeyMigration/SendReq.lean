import SandPlatform.Foundation.Exec
import SandPlatform.Foundation.Memory

/-!
# Key migration requests

`send_req` and the three requests built on it.  The calls that the kernel offers
for a session are a state machine of their own: it decides what every call
returns and which message is read.  The constants and the message header of the
key service are parameters.
-/

namespace SandPlatform.HwkeyMigration

open SandPlatform.Foundation

universe u

/-- `struct hwkey_msg`, as far as it is used. -/
structure HwkeyMsg where
  cmd : BitVec 32
  status : BitVec 32
  arg1 : BitVec 32
  deriving DecidableEq

/-- The interface of the key service. -/
structure Abi where
  sizeofMsg : Nat
  decode : List (BitVec 8) → HwkeyMsg
  reqShift : Nat
  respBit : BitVec 32
  hwkeyNoError : BitVec 32
  hwkeyErrNotValid : BitVec 32
  hwkeyErrBadLen : BitVec 32
  hwkeyErrNotImplemented : BitVec 32
  hwkeyErrNotFound : BitVec 32

/-- Return codes.  A failed kernel call passes its own code on. -/
inductive Rc
  | noError
  | errIo
  | errTooBig
  | errNotValid
  | errBadLen
  | errNotImplemented
  | errNotFound
  | errGeneric
  | ipc (code : Int)
  deriving DecidableEq

/-- `ipc_msg_info_t`, with what `get_msg` returned. -/
structure MsgInfo where
  rc : Int
  id : Nat
  len : Nat

/-- What `read_msg` returned and stored: the header and the bytes behind it. -/
structure ReadResult where
  rc : Int
  header : HwkeyMsg
  payload : List (BitVec 8)

/-- The kernel calls on a session.  `readMsg` is told how many bytes there is room
for behind the header. -/
structure Ipc (σ : Type u) where
  sendMsg : HwkeyMsg → List (BitVec 8) → σ → Int × σ
  wait : σ → Int × σ
  getMsg : σ → MsgInfo × σ
  readMsg : Nat → Nat → σ → ReadResult × σ
  putMsg : Nat → σ → Unit × σ

/-- The session with the header, the response buffer and its length. -/
structure Client (σ : Type u) where
  session : σ
  msg : HwkeyMsg
  rspBuf : Memory (BitVec 8)
  rspBufLen : BitVec 32

namespace Client

variable {σ : Type u}

/-- The effect of `read_msg` on the header and the response buffer. -/
def store (result : ReadResult) (client : Client σ) : Client σ :=
  { client with
    msg := result.header
    rspBuf := client.rspBuf.copy 0 (Memory.ofList result.payload fun _ => 0) 0
      result.payload.length }

/-- `*rsp_buf_len` is assigned. -/
def setRspBufLen (length : BitVec 32) (client : Client σ) : Client σ :=
  { client with rspBufLen := length }

end Client

variable {σ : Type u} (abi : Abi) (ipc : Ipc σ)

/-- `hwkey_err_to_tipc_err`. -/
def hwkeyErrToTipcErr (hwkeyErr : BitVec 32) : Rc :=
  if hwkeyErr = abi.hwkeyNoError then .noError
  else if hwkeyErr = abi.hwkeyErrNotValid then .errNotValid
  else if hwkeyErr = abi.hwkeyErrBadLen then .errBadLen
  else if hwkeyErr = abi.hwkeyErrNotImplemented then .errNotImplemented
  else if hwkeyErr = abi.hwkeyErrNotFound then .errNotFound
  else .errGeneric

/-- A kernel call. -/
def onSession {α : Type} (call : σ → α × σ) : Exec Rc (Client σ) α where
  run client :=
    (.ok (call client.session).1,
      { client with session := (call client.session).2 })

/-! ## Requests -/

/-- The checks on a header that was read, and the length of the payload. -/
def checkReply (cmdSent : BitVec 32) (readLen : Nat) : Exec Rc (Client σ) Rc := do
  let msg ← Exec.gets Client.msg
  if msg.cmd ≠ cmdSent ||| abi.respBit then
    Exec.stop .errNotValid
  else do
    Exec.modify (Client.setRspBufLen (BitVec.ofNat 32 (readLen - abi.sizeofMsg)))
    pure (hwkeyErrToTipcErr abi msg.status)

/-- Read the message and give it back, whatever came of it. -/
def readReply (info : MsgInfo) : Exec Rc (Client σ) Rc := do
  let cmdSent ← Exec.gets fun client => client.msg.cmd
  let room ← Exec.gets fun client => client.rspBufLen.toNat
  let result ← onSession (ipc.readMsg info.id room)
  Exec.modify (Client.store result)
  onSession (ipc.putMsg info.id)
  if result.rc < 0 then
    Exec.stop (.ipc result.rc)
  else if result.rc.toNat % 2 ^ 32 ≠ info.len then
    Exec.stop .errIo
  else
    checkReply abi cmdSent (result.rc.toNat % 2 ^ 32)

/-- A message is there: it must fit and have a whole header. -/
def receive (info : MsgInfo) : Exec Rc (Client σ) Rc := do
  let room ← Exec.gets fun client => client.rspBufLen.toNat
  if abi.sizeofMsg + room < info.len then do
    onSession (ipc.putMsg info.id)
    Exec.stop .errTooBig
  else if info.len < abi.sizeofMsg then do
    onSession (ipc.putMsg info.id)
    Exec.stop .errNotValid
  else
    readReply abi ipc info

/-- Wait for a message and take it. -/
def awaitReply : Exec Rc (Client σ) Rc := do
  let rc ← onSession ipc.wait
  if rc ≠ 0 then
    Exec.stop (.ipc rc)
  else do
    let info ← onSession ipc.getMsg
    if info.rc ≠ 0 then
      Exec.stop (.ipc info.rc)
    else
      receive abi ipc info

/-- `send_req`: one message is sent, and the answer to it is awaited, checked and taken. -/
def sendReq (reqBuf : Memory (BitVec 8)) (reqBufLen : BitVec 32) :
    Exec Rc (Client σ) Rc := do
  let msg ← Exec.gets Client.msg
  let rc ← onSession (ipc.sendMsg msg (reqBuf.read 0 reqBufLen.toNat))
  if rc < 0 then
    Exec.stop (.ipc rc)
  else if rc.toNat ≠ abi.sizeofMsg + reqBufLen.toNat then
    Exec.stop .errIo
  else
    awaitReply abi ipc

/-! ## The three calls -/

/-- What a call leaves: its code, the response buffer and the session. -/
structure Outcome (σ : Type u) where
  rc : Rc
  rspBuf : Memory (BitVec 8)
  session : σ

/-- The code of `send_req`, however it was left. -/
def returned : Except Rc Rc → Rc
  | .ok rc => rc
  | .error rc => rc

/-- `data_size` must come back unchanged. -/
def checkSize (size : BitVec 32) (rc : Rc) (client : Client σ) : Outcome σ :=
  if rc ≠ .noError then
    ⟨rc, client.rspBuf, client.session⟩
  else if size ≠ client.rspBufLen then
    ⟨.errBadLen, client.rspBuf, client.session⟩
  else
    ⟨rc, client.rspBuf, client.session⟩

/-- One request with a command of its own. -/
def request (cmd size : BitVec 32) (reqBuf rspBuf : Memory (BitVec 8))
    (session : σ) : Outcome σ :=
  let left := sendReq abi ipc reqBuf size ⟨session, ⟨cmd, 0, size⟩, rspBuf, size⟩
  checkSize size (returned left.1) left.2

namespace Abi

/-- `HWKEY_GENERATE_CRYPTO_CTX`. -/
def generateCryptoCtx : BitVec 32 := 127 <<< abi.reqShift

/-- `HWKEY_EXCHANGE_CRYPTO_CTX`. -/
def exchangeCryptoCtx : BitVec 32 := 126 <<< abi.reqShift

/-- `HWKEY_GET_SSEK`. -/
def getSsek : BitVec 32 := 125 <<< abi.reqShift

end Abi

/-- A call that is refused before anything is sent. -/
def refused (rspBuf : Option (Memory (BitVec 8))) (session : σ) : Outcome σ :=
  ⟨.errNotValid, rspBuf.getD fun _ => 0, session⟩

/-- `hwkey_generate_crypto_context`, whose answer replaces the data. -/
def hwkeyGenerateCryptoContext (data : Option (Memory (BitVec 8)))
    (dataSize : BitVec 32) (session : σ) : Outcome σ :=
  match data with
  | none => refused data session
  | some data' =>
      if dataSize = 0 then
        refused data session
      else
        request abi ipc abi.generateCryptoCtx dataSize data' data' session

/-- `hwkey_exchange_crypto_context`, whose answer has a buffer of its own. -/
def hwkeyExchangeCryptoContext (src dst : Option (Memory (BitVec 8)))
    (dstSize : BitVec 32) (session : σ) : Outcome σ :=
  match src, dst with
  | some src', some dst' =>
      if dstSize = 0 then
        refused dst session
      else
        request abi ipc abi.exchangeCryptoCtx dstSize src' dst' session
  | _, _ => refused dst session

/-- `hwkey_get_ssek`: the buffer is sent as it is and holds the key afterwards. -/
def hwkeyGetSsek (ssek : Option (Memory (BitVec 8))) (ssekSize : BitVec 32)
    (session : σ) : Outcome σ :=
  match ssek with
  | none => refused ssek session
  | some ssek' =>
      if ssekSize = 0 then
        refused ssek session
      else
        request abi ipc abi.getSsek ssekSize ssek' ssek' session

end SandPlatform.HwkeyMigration
