import XousSignalClient.Account.Record

namespace XousSignalClient

open Encoding Interaction

def WS_PROVISION_MAX : ℕ := 8 * 1024

def KEEPALIVE_MS : UInt64 := 25000

inductive WsServerOp where
  | WaitAndTakeBinary
  | Cancel
  | FlapCancel
  deriving DecidableEq

def WsServerOp.from_usize : ℕ → Option WsServerOp
  | 0 => some .WaitAndTakeBinary
  | 1 => some .Cancel
  | 2 => some .FlapCancel
  | _ => none

def STATUS_BINARY : UInt8 := 0
def STATUS_CLOSED : UInt8 := 1
def STATUS_TIMED_OUT : UInt8 := 2
def STATUS_CANCELLED : UInt8 := 3
def STATUS_ERROR : UInt8 := 4

structure WsResultBuf where
  status : UInt8
  len : UInt32
  bytes : Bytes
  full : bytes.length = WS_PROVISION_MAX

def WsResultBuf.empty : WsResultBuf :=
  ⟨255, 0, List.replicate WS_PROVISION_MAX 0, List.length_replicate⟩

inductive WsResult where
  | Binary (b : Bytes)
  | Closed
  | TimedOut
  | Cancelled
  | Error (e : Error)
  deriving DecidableEq

structure IpcCrate where
  Page : Type
  into_buf : WsResultBuf → Except String Page
  to_original : Page → Except String WsResultBuf
  replace : Page → WsResultBuf → Except String Page

structure IpcCrate.Lawful (B : IpcCrate) : Prop where
  into_buf : ∀ buf, ∃ page, B.into_buf buf = .ok page ∧ B.to_original page = .ok buf
  replace : ∀ page buf new, B.to_original page = .ok buf →
    ∃ page', B.replace page new = .ok page' ∧ B.to_original page' = .ok new

/-- Whom a reply goes to: the `n`th `wait_and_take_binary`, the `cancel`, or anyone else. -/
inductive Sender where
  | waiter (n : ℕ)
  | canceller
  | stranger
  deriving DecidableEq

/-- `xous::MessageEnvelope`; `body` is the page of a memory message. -/
structure Envelope (B : IpcCrate) where
  sender : Sender
  id : ℕ
  body : Option B.Page

inductive SocketErrorKind where
  | WouldBlock
  | TimedOut
  | Other
  deriving DecidableEq

inductive SocketError where
  | Io (kind : SocketErrorKind)
  | ConnectionClosed
  | AlreadyClosed
  | Other (text : String)
  deriving DecidableEq

def is_timeout : SocketError → Bool
  | .Io kind => kind = .WouldBlock || kind = .TimedOut
  | _ => false

inductive WsMessage where
  | Binary (b : Bytes)
  | Ping (b : Bytes)
  | Pong (b : Bytes)
  | Text (t : String)
  | Frame
  | Close (reason : Option String)
  deriving DecidableEq

/-- A clock reading is named by what it is compared with or kept as. -/
inductive Clock where
  | spawn
  | last_send_at
  | deadline
  | keepalive
  deriving DecidableEq

/-- What the worker asks of its surroundings: its message queue, the clock and the WebSocket. `return_memory` is the
drop of a memory message. -/
inductive WsCall (B : IpcCrate) where
  | set_read_timeout
  | ticktimer_new
  | elapsed_ms (use : Clock)
  | try_receive_message
  | send_ping
  | read
  | return_memory (sender : Sender) (page : B.Page)
  | return_scalar (sender : Sender)
  | close
  | destroy_server

def WsCall.Reply {B : IpcCrate} : WsCall B → Type
  | .set_read_timeout => Except String Unit
  | .ticktimer_new => Except String Unit
  | .elapsed_ms _ => UInt64
  | .try_receive_message => Except String (Option (Envelope B))
  | .send_ping => Except SocketError Unit
  | .read => Except SocketError WsMessage
  | .return_memory _ _ => Unit
  | .return_scalar _ => Except String Unit
  | .close => Unit
  | .destroy_server => Except String Unit

abbrev wsSignature (B : IpcCrate) : Signature := ⟨WsCall B, WsCall.Reply⟩

abbrev WsM (B : IpcCrate) (α : Type) := Program (wsSignature B) α

variable {B : IpcCrate}

def ws (c : WsCall B) : WsM B c.Reply := Program.perform (S := wsSignature B) c

inductive PendingResult where
  | Binary (b : Bytes) (fits : b.length ≤ WS_PROVISION_MAX)
  | Closed
  | TimedOut
  | Cancelled
  | Error

section Client

def WsResultBuf.take (result : WsResultBuf) : WsResult :=
  if result.status = STATUS_BINARY then
    if WS_PROVISION_MAX < result.len.toNat then .Error ⟨.InvalidData, "payload len exceeds WS_PROVISION_MAX"⟩
    else .Binary (result.bytes.take result.len.toNat)
  else if result.status = STATUS_CLOSED then .Closed
  else if result.status = STATUS_TIMED_OUT then .TimedOut
  else if result.status = STATUS_CANCELLED then .Cancelled
  else if result.status = STATUS_ERROR then .Error ⟨.Other, "worker error"⟩
  else .Error ⟨.Other, "unknown WsResultBuf.status " ++ toString result.status⟩

def wait_and_take_binary (page : B.Page) : WsResult :=
  match B.to_original page with
  | .error e => .Error ⟨.Other, "ipc to_original: " ++ e⟩
  | .ok result => result.take

end Client

section Filling

def PendingResult.fill (payload : WsResultBuf) : PendingResult → WsResultBuf
  | .Binary b fits =>
    { payload with
      status := STATUS_BINARY
      len := UInt32.ofNat b.length
      bytes := b ++ payload.bytes.drop b.length
      full := by
        have hfull := payload.full
        rw [List.length_append, List.length_drop]
        omega }
  | .Closed => { payload with status := STATUS_CLOSED }
  | .TimedOut => { payload with status := STATUS_TIMED_OUT }
  | .Cancelled => { payload with status := STATUS_CANCELLED }
  | .Error => { payload with status := STATUS_ERROR }

def dropMessage (msg : Envelope B) : WsM B Unit :=
  match msg.body with
  | none => pure ()
  | some page => ws (.return_memory msg.sender page)

def filledPage (page : B.Page) (result : PendingResult) : B.Page :=
  match B.to_original page with
  | .error _ => page
  | .ok payload =>
    match B.replace page (result.fill payload) with
    | .error _ => page
    | .ok page' => page'

def fill_buf (msg : Envelope B) (result : PendingResult) : WsM B Unit :=
  dropMessage { msg with body := msg.body.map (filledPage · result) }

end Filling

section Loop

structure Worker (B : IpcCrate) where
  deadline_ms : UInt64
  last_send_at : UInt64
  pending : Option PendingResult
  waiter : Option (Envelope B)
  flap_cancelled : Bool

inductive Flow (B : IpcCrate) where
  | next (w : Worker B)
  | exit (w : Worker B)

def dropWaiter (w : Worker B) : WsM B Unit :=
  match w.waiter with
  | none => pure ()
  | some msg => dropMessage msg

def cancelWaiter (w : Worker B) : WsM B Unit :=
  match w.waiter with
  | none => pure ()
  | some msg => fill_buf msg .Cancelled

def serveCancel (w : Worker B) (msg : Envelope B) : WsM B (Flow B) := do
  cancelWaiter w
  let _ ← ws (.return_scalar msg.sender)
  dropMessage msg
  pure (.exit { w with waiter := none })

def serveMessage (w : Worker B) (msg : Envelope B) : WsM B (Flow B) :=
  match WsServerOp.from_usize msg.id with
  | some .WaitAndTakeBinary =>
    match w.pending with
    | some result => do
      fill_buf msg result
      pure (.next { w with pending := none })
    | none => do
      dropWaiter w
      pure (.next { w with waiter := some msg })
  | some .Cancel => serveCancel w msg
  | some .FlapCancel => do
    dropMessage msg
    pure (.next { w with flap_cancelled := true, pending := w.pending.or (some .Cancelled) })
  | none => do
    dropMessage msg
    pure (.next w)

/-- (1) Non-blocking IPC service. -/
def serviceIpc (w : Worker B) : WsM B (Flow B) := do
  match ← ws .try_receive_message with
  | .error _ => pure (.exit w)
  | .ok none => pure (.next w)
  | .ok (some msg) => serveMessage w msg

/-- (2) Deadline. -/
def checkDeadline (w : Worker B) : WsM B (Worker B) :=
  if w.pending.isSome then pure w
  else do
    let now : UInt64 ← ws (.elapsed_ms .deadline)
    if w.deadline_ms ≤ now then pure { w with pending := some .TimedOut }
    else pure w

def saturatingSub (a b : UInt64) : UInt64 := if a ≤ b then 0 else a - b

/-- (3) Application-layer keepalive. -/
def keepalive (w : Worker B) : WsM B (Worker B) :=
  if w.flap_cancelled || w.pending.isSome then pure w
  else do
    let now : UInt64 ← ws (.elapsed_ms .keepalive)
    if KEEPALIVE_MS ≤ saturatingSub now w.last_send_at then
      match ← ws .send_ping with
      | .ok () =>
        let sent : UInt64 ← ws (.elapsed_ms .last_send_at)
        pure { w with last_send_at := sent }
      | .error _ => pure { w with pending := some .Error }
    else pure w

def readResult : Except SocketError WsMessage → Option PendingResult
  | .ok (.Binary b) => if h : b.length ≤ WS_PROVISION_MAX then some (.Binary b h) else some .Error
  | .ok (.Close _) => some .Closed
  | .ok _ => none
  | .error e => if is_timeout e then none else some .Error

/-- (4) Drive `ws.read`. -/
def readSocket (w : Worker B) : WsM B (Worker B) :=
  if w.flap_cancelled || w.pending.isSome then pure w
  else do
    let result : Except SocketError WsMessage ← ws .read
    pure { w with pending := readResult result }

/-- (5) Deliver a pending result if main is waiting. -/
def deliver (w : Worker B) : WsM B (Worker B) :=
  match w.pending, w.waiter with
  | some result, some msg => do
    fill_buf msg result
    pure { w with pending := none, waiter := none }
  | _, _ => pure w

def shutdown (w : Worker B) : WsM B Unit := do
  ws .close
  let _ ← ws .destroy_server
  dropWaiter w

/-- The loop for `n` iterations; `none` says that it has exited. -/
def iterate : ℕ → Worker B → WsM B (Option (Worker B))
  | 0, w => pure (some w)
  | n + 1, w => do
    match ← serviceIpc w with
    | .exit w => do
      shutdown w
      pure none
    | .next w => do
      let w ← checkDeadline w
      let w ← keepalive w
      let w ← readSocket w
      let w ← deliver w
      iterate n w

def saturatingMul (a b : UInt64) : UInt64 :=
  if a.toNat * b.toNat < 2 ^ 64 then a * b else UInt64.ofNat (2 ^ 64 - 1)

def deadlineAfter (start deadline_secs : UInt64) : UInt64 := start + saturatingMul deadline_secs 1000

def worker_loop (n : ℕ) (deadline_secs : UInt64) : WsM B (Option (Worker B)) := do
  let _timeout ← ws .set_read_timeout
  match ← ws .ticktimer_new with
  | .error _ => pure none
  | .ok () => do
    let start : UInt64 ← ws (.elapsed_ms .spawn)
    let last_send_at : UInt64 ← ws (.elapsed_ms .last_send_at)
    iterate n ⟨deadlineAfter start deadline_secs, last_send_at, none, none, false⟩

end Loop

end XousSignalClient
