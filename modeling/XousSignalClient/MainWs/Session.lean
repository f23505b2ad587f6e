import XousSignalClient.MainWs.Dispatch
import XousSignalClient.MainWs.Frames
import XousSignalClient.Provisioning.Worker

namespace XousSignalClient

open Encoding Interaction Fallible

namespace MainWs

def KEEPALIVE_MS : UInt64 := 25000
def APP_KEEPALIVE_MS : UInt64 := 55000
def APP_KEEPALIVE_PATH : String := "/v1/keepalive"
def READ_TIMEOUT_MS : ℕ := 500

inductive SessionCall where
  | set_read_timeout (ms : ℕ)
  | ticktimer_new
  | elapsed_ms
  | send (m : WsMessage)
  | read
  | dispatch_envelope (body : Bytes) (local_addr : ProtocolAddress)
  | close

def SessionCall.Reply : SessionCall → Type
  | .set_read_timeout _ => Except String Unit
  | .ticktimer_new => Except String Unit
  | .elapsed_ms => UInt64
  | .send _ => Except SocketError Unit
  | .read => Except SocketError WsMessage
  | .dispatch_envelope _ _ => Except Panic Unit
  | .close => Unit

def sessionSignature : Signature := ⟨SessionCall, SessionCall.Reply⟩

abbrev SessionM (α : Type) := Fallible sessionSignature Panic α

def SessionCall.ask (c : SessionCall) : SessionM c.Reply := Fallible.call (S := sessionSignature) c

section Acknowledgement

def ackOf (id : UInt64) (status : ℕ) : WsResponseProto := ⟨some id, some status, some "OK", none, []⟩

def ackMessage (id : UInt64) (status : ℕ) : WsMessageProto := ⟨some WS_TYPE_RESPONSE, none, some (ackOf id status)⟩

def send_ack (id : UInt64) (status : ℕ) : SessionM Unit := do
  let _ ← (SessionCall.send (.Binary (ackMessage id status).encode_to_vec)).ask
  pure ()

def dispatch (body : Option Bytes) (local_addr : ProtocolAddress) : SessionM Unit :=
  match body with
  | none => pure ()
  | some body => do
    let dispatched : Except Panic Unit ← (SessionCall.dispatch_envelope body local_addr).ask
    Fallible.ofExcept dispatched

def handle_request (req : WsRequestProto) (local_addr : ProtocolAddress) : SessionM Unit :=
  let id := req.id.getD 0
  let verb := req.verb.getD ""
  let path := req.path.getD ""
  if verb = "PUT" ∧ path = "/api/v1/message" then do
    dispatch req.body local_addr
    send_ack id 200
  else if verb = "PUT" ∧ path = "/api/v1/queue/empty" then send_ack id 200
  else send_ack id 200

def handleFrame (raw : Bytes) (local_addr : ProtocolAddress) : SessionM Unit :=
  match WsMessageProto.decode raw with
  | none => pure ()
  | some ws_msg =>
    if ws_msg.type = some WS_TYPE_REQUEST then
      match ws_msg.request with
      | some req => handle_request req local_addr
      | none => pure ()
    else pure ()

end Acknowledgement

section Loop

structure Session where
  last_ping_ms : UInt64
  next_request_id : UInt64
  last_app_keepalive_ms : UInt64
  deriving DecidableEq

def keepaliveRequest (id : UInt64) : WsRequestProto := ⟨some "GET", some APP_KEEPALIVE_PATH, none, some id, []⟩

def keepaliveMessage (id : UInt64) : WsMessageProto := ⟨some WS_TYPE_REQUEST, some (keepaliveRequest id), none⟩

/-- (1a) The WebSocket ping; `none` leaves the loop. -/
def sendPing (s : Session) : SessionM (Option Session) := do
  let now : UInt64 ← SessionCall.elapsed_ms.ask
  if KEEPALIVE_MS ≤ saturatingSub now s.last_ping_ms then
    let sent : Except SocketError Unit ← (SessionCall.send (.Ping [])).ask
    match sent with
    | .error _ => pure none
    | .ok () =>
      let last_ping_ms : UInt64 ← SessionCall.elapsed_ms.ask
      pure (some { s with last_ping_ms := last_ping_ms })
  else pure (some s)

/-- (1b) The application keepalive. -/
def sendKeepalive (s : Session) : SessionM (Option Session) := do
  let now : UInt64 ← SessionCall.elapsed_ms.ask
  if APP_KEEPALIVE_MS ≤ saturatingSub now s.last_app_keepalive_ms then
    let sent : Except SocketError Unit ←
      (SessionCall.send (.Binary (keepaliveMessage s.next_request_id).encode_to_vec)).ask
    match sent with
    | .error _ => pure none
    | .ok () =>
      let last_app_keepalive_ms : UInt64 ← SessionCall.elapsed_ms.ask
      pure (some { s with
        last_app_keepalive_ms := last_app_keepalive_ms
        next_request_id := s.next_request_id + 1 })
  else pure (some s)

/-- (3) Serve what was read. -/
def serveRead (local_addr : ProtocolAddress) (s : Session) : Except SocketError WsMessage → SessionM (Option Session)
  | .ok (.Binary raw) => do
    handleFrame raw local_addr
    pure (some s)
  | .ok (.Close _) => pure none
  | .ok _ => pure (some s)
  | .error e => if is_timeout e then pure (some s) else pure none

/-- (2) Read the next frame. -/
def readFrame (local_addr : ProtocolAddress) (s : Session) : SessionM (Option Session) := do
  let frame : Except SocketError WsMessage ← SessionCall.read.ask
  serveRead local_addr s frame

def sessionTurn (local_addr : ProtocolAddress) (s : Session) : SessionM (Option Session) := do
  match ← sendPing s with
  | none => pure none
  | some s =>
    match ← sendKeepalive s with
    | none => pure none
    | some s => readFrame local_addr s

/-- The loop for `n` iterations; `none` says that it has exited. -/
def sessionLoop (local_addr : ProtocolAddress) : ℕ → Session → SessionM (Option Session)
  | 0, s => pure (some s)
  | n + 1, s => do
    match ← sessionTurn local_addr s with
    | none => pure none
    | some s => sessionLoop local_addr n s

def run_session (local_addr : ProtocolAddress) (n : ℕ) : SessionM (Option Session) := do
  let _ ← (SessionCall.set_read_timeout READ_TIMEOUT_MS).ask
  let timer : Except String Unit ← SessionCall.ticktimer_new.ask
  match timer with
  | .error _ =>
    SessionCall.close.ask
    pure none
  | .ok () =>
    let last_ping_ms : UInt64 ← SessionCall.elapsed_ms.ask
    let now : UInt64 ← SessionCall.elapsed_ms.ask
    match ← sessionLoop local_addr n ⟨last_ping_ms, 1, saturatingSub now APP_KEEPALIVE_MS⟩ with
    | none =>
      SessionCall.close.ask
      pure none
    | some s => pure (some s)

end Loop

section Surroundings

variable {L : InboundCrates} {ν : Type}

structure Network (ν : Type) where
  set_read_timeout : ℕ → ν → Except String Unit × ν
  ticktimer_new : ν → Except String Unit × ν
  elapsed_ms : ν → UInt64 × ν
  send : WsMessage → ν → Except SocketError Unit × ν
  read : ν → Except SocketError WsMessage × ν
  close : ν → ν

def onNetwork {α : Type} (f : ν → α × ν) (s : App × ν) : α × (App × ν) := ((f s.2).1, s.1, (f s.2).2)

def InboundEnv.session (env : InboundEnv L) (net : Network ν) : Handler sessionSignature (App × ν) where
  answer
    | .set_read_timeout ms, s => onNetwork (net.set_read_timeout ms) s
    | .ticktimer_new, s => onNetwork net.ticktimer_new s
    | .elapsed_ms, s => onNetwork net.elapsed_ms s
    | .send m, s => onNetwork (net.send m) s
    | .read, s => onNetwork net.read s
    | .dispatch_envelope body local_addr, s =>
      let o := (MainWs.dispatch_envelope body local_addr : DispatchM L Unit).exec env.handler s.1
      (o.value, o.state, s.2)
    | .close, s => ((), s.1, net.close s.2)

end Surroundings

section Messages

def requestIn : WsMessage → Option WsRequestProto
  | .Binary b => (WsMessageProto.decode b).bind (fun m => if m.type = some WS_TYPE_REQUEST then m.request else none)
  | _ => none

def responseIn : WsMessage → Option WsResponseProto
  | .Binary b => (WsMessageProto.decode b).bind (fun m => if m.type = some WS_TYPE_RESPONSE then m.response else none)
  | _ => none

theorem length_encodeVarintField_le (tag value : ℕ) : (encodeField (.varint tag value)).length ≤ 20 := by
  have hkey := length_encodeVarint_le (8 * tag + 0)
  have hvalue := length_encodeVarint_le value
  simp only [encodeField, encodeKey, List.length_append]
  omega

theorem length_keepaliveMessage (id : UInt64) : (keepaliveMessage id).encode_to_vec.length < 2 ^ 64 := by
  have hinner : encodeFields (keepaliveRequest id).fields =
      encodeField (.bytes 1 (utf8 "GET")) ++ (encodeField (.bytes 2 (utf8 "/v1/keepalive")) ++
        encodeField (.varint 4 id.toNat)) := by
    simp [encodeFields, WsRequestProto.fields, keepaliveRequest, Outgoing.stringField, Outgoing.uint64Field,
      bytesField, stringsField, APP_KEEPALIVE_PATH]
  have houter : (keepaliveMessage id).encode_to_vec =
      encodeField (.varint 1 1) ++ encodeField (.bytes 2 (encodeFields (keepaliveRequest id).fields)) := by
    simp [WsMessageProto.encode_to_vec, encodeFields, WsMessageProto.fields, keepaliveMessage, WS_TYPE_REQUEST,
      int32Field, Outgoing.messageField]
  have hverb := length_encodeBytes_le 1 (utf8 "GET")
  have hpath := length_encodeBytes_le 2 (utf8 "/v1/keepalive")
  have hid := length_encodeVarintField_le 4 id.toNat
  have htype := length_encodeVarintField_le 1 1
  have hrequest := length_encodeBytes_le 2 (encodeFields (keepaliveRequest id).fields)
  have hget : (utf8 "GET").length = 3 := by decide
  have hkeepalive : (utf8 "/v1/keepalive").length = 13 := by decide
  rw [houter, List.length_append]
  rw [hinner, List.length_append, List.length_append] at hrequest
  rw [hinner]
  omega

theorem length_ackMessage (id : UInt64) : (ackMessage id 200).encode_to_vec.length < 2 ^ 64 := by
  have hinner : encodeFields (ackOf id 200).fields =
      encodeField (.varint 1 id.toNat) ++ (encodeField (.varint 2 200) ++ encodeField (.bytes 3 (utf8 "OK"))) := by
    simp [encodeFields, WsResponseProto.fields, ackOf, Outgoing.stringField, Outgoing.uint64Field,
      bytesField, stringsField, uint32Field]
  have houter : (ackMessage id 200).encode_to_vec =
      encodeField (.varint 1 2) ++ encodeField (.bytes 3 (encodeFields (ackOf id 200).fields)) := by
    simp [WsMessageProto.encode_to_vec, encodeFields, WsMessageProto.fields, ackMessage, WS_TYPE_RESPONSE,
      int32Field, Outgoing.messageField]
  have hid := length_encodeVarintField_le 1 id.toNat
  have hstatus := length_encodeVarintField_le 2 200
  have hmessage := length_encodeBytes_le 3 (utf8 "OK")
  have htype := length_encodeVarintField_le 1 2
  have hresponse := length_encodeBytes_le 3 (encodeFields (ackOf id 200).fields)
  have hok : (utf8 "OK").length = 2 := by decide
  rw [houter, List.length_append]
  rw [hinner, List.length_append, List.length_append] at hresponse
  rw [hinner]
  omega

theorem decode_keepaliveMessage (id : UInt64) :
    WsMessageProto.decode (keepaliveMessage id).encode_to_vec = some (keepaliveMessage id) := by
  refine WsMessageProto.decode_encode ⟨?_, ?_⟩ (length_keepaliveMessage id)
  · rintro _ ⟨⟩
    decide
  · rintro _ ⟨⟩

theorem decode_ackMessage (id : UInt64) :
    WsMessageProto.decode (ackMessage id 200).encode_to_vec = some (ackMessage id 200) := by
  refine WsMessageProto.decode_encode ⟨?_, ?_⟩ (length_ackMessage id)
  · rintro _ ⟨⟩
    decide
  · rintro _ ⟨⟩ _ ⟨⟩
    decide

@[simp] theorem requestIn_keepalive (id : UInt64) :
    requestIn (.Binary (keepaliveMessage id).encode_to_vec) = some (keepaliveRequest id) := by
  rw [requestIn, decode_keepaliveMessage]
  rfl

@[simp] theorem responseIn_keepalive (id : UInt64) :
    responseIn (.Binary (keepaliveMessage id).encode_to_vec) = none := by
  rw [responseIn, decode_keepaliveMessage]
  rfl

@[simp] theorem requestIn_ack (id : UInt64) : requestIn (.Binary (ackMessage id 200).encode_to_vec) = none := by
  rw [requestIn, decode_ackMessage]
  rfl

@[simp] theorem responseIn_ack (id : UInt64) :
    responseIn (.Binary (ackMessage id 200).encode_to_vec) = some (ackOf id 200) := by
  rw [responseIn, decode_ackMessage]
  rfl

end Messages

end MainWs

end XousSignalClient
