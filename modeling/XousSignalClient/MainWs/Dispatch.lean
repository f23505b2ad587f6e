import XousSignalClient.MainWs.Deliver

namespace XousSignalClient

open Encoding Interaction Fallible

namespace MainWs

def ENVELOPE_UNIDENTIFIED_SENDER : ℤ := 6

def SEALED_SENDER_TRUST_ROOTS : List String :=
  ["BXu6QIKVz5MA8gstzfOgRQGqyLqOwNKHL6INkv3IHWMF", "BUkY0I+9+oPgDCn4+Ac6Iu813yvqkDr/ga8DzLxFxuk6"]

structure EnvelopeProto where
  type : Option ℤ
  source_service_id : Option String
  source_device : Option ℕ
  server_timestamp : Option UInt64
  content : Option Bytes
  deriving DecidableEq

def EnvelopeProto.decode (bs : Bytes) : Option EnvelopeProto := do
  let fields ← decodeFields RECURSION_LIMIT bs
  let type ← optionalField readInt32 1 fields
  let source_service_id ← optionalField readString 2 fields
  let source_device ← optionalField readUint32 7 fields
  let server_timestamp ← optionalField readUint64 5 fields
  let content ← optionalField readBytes 8 fields
  pure ⟨type, source_service_id, source_device, server_timestamp, content⟩

inductive CiphertextMessageType where
  | Whisper
  | PreKey
  | SenderKey
  | Plaintext
  deriving DecidableEq

structure InboundCrates where
  PublicKey : Type
  Usmc : Type
  SenderCertificate : Type
  PreKeySignalMessage : Type
  SignalMessage : Type
  b64_decode : String → Except String Bytes
  public_key_deserialize : Bytes → Except SignalProtocolError PublicKey
  sender : Usmc → Except SignalProtocolError SenderCertificate
  msg_type : Usmc → Except SignalProtocolError CiphertextMessageType
  contents : Usmc → Except SignalProtocolError Bytes
  validate_with_trust_roots : SenderCertificate → List PublicKey → UInt64 → Except SignalProtocolError Bool
  sender_uuid : SenderCertificate → Except SignalProtocolError String
  sender_device_id : SenderCertificate → Except SignalProtocolError DeviceId
  prekey_signal_message : Bytes → Except SignalProtocolError PreKeySignalMessage
  signal_message : Bytes → Except SignalProtocolError SignalMessage

/-- What dispatching an envelope asks for: libsignal's decryption on the stores, and the delivery
functions. -/
inductive DispatchCall (L : InboundCrates) where
  | sealed_sender_decrypt_to_usmc (ciphertext : Bytes)
  | message_decrypt_prekey (msg : L.PreKeySignalMessage) (remote_address local_address : ProtocolAddress)
  | message_decrypt_signal (msg : L.SignalMessage) (remote_address : ProtocolAddress)
  | deliver_data_message (dm : DataMessageProto) (remote_addr : ProtocolAddress) (server_ts : UInt64)
  | deliver_sync_message (sync : SyncMessageProto) (server_ts : UInt64)
  | set_current_recipient (remote_addr : ProtocolAddress)
  | redraw

variable {L : InboundCrates} {σ : Type}

def DispatchCall.Reply : DispatchCall L → Type
  | .sealed_sender_decrypt_to_usmc _ => Except SignalProtocolError L.Usmc
  | .message_decrypt_prekey _ _ _ => Except SignalProtocolError Bytes
  | .message_decrypt_signal _ _ => Except SignalProtocolError Bytes
  | .deliver_data_message _ _ _ => Except Panic Bool
  | .deliver_sync_message _ _ => Except Panic Bool
  | .set_current_recipient _ => Except OutgoingError Unit
  | .redraw => Unit

def dispatchSignature (L : InboundCrates) : Signature := ⟨DispatchCall L, DispatchCall.Reply⟩

abbrev DispatchM (L : InboundCrates) (α : Type) := Fallible (dispatchSignature L) Panic α

def DispatchCall.ask (c : DispatchCall L) : DispatchM L c.Reply :=
  Fallible.call (S := dispatchSignature L) c

def trustRoots (L : InboundCrates) : List L.PublicKey :=
  (SEALED_SENDER_TRUST_ROOTS.filterMap (fun b64 => (L.b64_decode b64).toOption)).filterMap
    (fun raw => (L.public_key_deserialize raw).toOption)

def decryptPreKey (content : Bytes) (remote_addr local_addr : ProtocolAddress) : DispatchM L (Option Bytes) :=
  match L.prekey_signal_message content with
  | .error _ => pure none
  | .ok msg => do
    let decrypted ← (DispatchCall.message_decrypt_prekey msg remote_addr local_addr).ask
    pure (Except.toOption (α := Bytes) decrypted)

def decryptSignal (content : Bytes) (remote_addr : ProtocolAddress) : DispatchM L (Option Bytes) :=
  match L.signal_message content with
  | .error _ => pure none
  | .ok msg => do
    let decrypted ← (DispatchCall.message_decrypt_signal msg remote_addr).ask
    pure (Except.toOption (α := Bytes) decrypted)

def decryptSealed (usmc : L.Usmc) (remote_addr local_addr : ProtocolAddress) : DispatchM L (Option Bytes) :=
  let contents := (Except.toOption (L.contents usmc)).getD []
  match L.msg_type usmc with
  | .ok .PreKey => decryptPreKey contents remote_addr local_addr
  | .ok .Whisper => decryptSignal contents remote_addr
  | _ => pure none

def certifiedSender (usmc : L.Usmc) (ts : UInt64) : Option ProtocolAddress :=
  match L.sender usmc with
  | .error _ => none
  | .ok sender_cert =>
    match L.validate_with_trust_roots sender_cert (trustRoots L) ts with
    | .ok true =>
      match L.sender_uuid sender_cert with
      | .error _ => none
      | .ok sender_uuid =>
        match L.sender_device_id sender_cert with
        | .error _ => none
        | .ok sender_dev_id => some ⟨sender_uuid, sender_dev_id⟩
    | _ => none

structure Opened where
  plaintext : Bytes
  remote_addr : ProtocolAddress
  ts : UInt64
  deriving DecidableEq

def openSealed (content : Bytes) (ts : UInt64) (local_addr : ProtocolAddress) :
    DispatchM L (Option Opened) := do
  let unsealed : Except SignalProtocolError L.Usmc ← (DispatchCall.sealed_sender_decrypt_to_usmc content).ask
  match unsealed with
  | .error _ => pure none
  | .ok usmc =>
    match certifiedSender usmc ts with
    | none => pure none
    | some remote_addr =>
      let plaintext ← decryptSealed usmc remote_addr local_addr
      pure (plaintext.map (fun p => ⟨p, remote_addr, ts⟩))

def openNamed (env_type : ℤ) (source_id : String) (source_dev : ℕ) (content : Bytes) (ts : UInt64)
    (local_addr : ProtocolAddress) : DispatchM L (Option Opened) :=
  match DeviceId.new source_dev with
  | none => pure none
  | some sender_device =>
    let remote_addr : ProtocolAddress := ⟨source_id, sender_device⟩
    if env_type = ENVELOPE_PREKEY_BUNDLE then do
      let plaintext ← decryptPreKey content remote_addr local_addr
      pure (plaintext.map (fun p => ⟨p, remote_addr, ts⟩))
    else if env_type = ENVELOPE_CIPHERTEXT then do
      let plaintext ← decryptSignal content remote_addr
      pure (plaintext.map (fun p => ⟨p, remote_addr, ts⟩))
    else pure none

/-- `dispatch_envelope` up to the plaintext; `none` where the source drops the envelope. -/
def openEnvelope (body : Bytes) (local_addr : ProtocolAddress) : DispatchM L (Option Opened) :=
  match EnvelopeProto.decode body with
  | none => pure none
  | some envelope =>
    let source_id := envelope.source_service_id.getD ""
    let source_dev := envelope.source_device.getD 1
    let env_type := envelope.type.getD 0
    let ts := envelope.server_timestamp.getD 0
    match envelope.content with
    | none => pure none
    | some content =>
      if env_type = ENVELOPE_UNIDENTIFIED_SENDER then openSealed content ts local_addr
      else openNamed env_type source_id source_dev content ts local_addr

def orPanic {α : Type} (x : DispatchM L (Except Panic α)) : DispatchM L α := do
  let r ← x
  Fallible.ofExcept r

def dispatch_envelope (body : Bytes) (local_addr : ProtocolAddress) : DispatchM L Unit := do
  match ← openEnvelope body local_addr with
  | none => pure ()
  | some opened =>
    deliverContent (fun dm a ts => orPanic (DispatchCall.deliver_data_message dm a ts).ask)
      (fun sync ts => orPanic (DispatchCall.deliver_sync_message sync ts).ask)
      (fun a => (DispatchCall.set_current_recipient a).ask) DispatchCall.redraw.ask
      opened.plaintext opened.remote_addr opened.ts

theorem only_deliverContent {P : DispatchCall L → Prop} (plaintext : Bytes) (remote : ProtocolAddress) (ts : UInt64)
    (hdata : ∀ dm, P (.deliver_data_message dm remote ts)) (hsync : ∀ sync, P (.deliver_sync_message sync ts))
    (hset : P (.set_current_recipient remote)) (hredraw : P .redraw) :
    (deliverContent (fun dm a ts => orPanic (DispatchCall.deliver_data_message dm a ts).ask)
      (fun sync ts => orPanic (DispatchCall.deliver_sync_message sync ts).ask)
      (fun a => (DispatchCall.set_current_recipient a).ask) DispatchCall.redraw.ask
      plaintext remote ts : DispatchM L Unit).run.Only P := by
  have hask : ∀ c : DispatchCall L, P c → c.ask.run.Only P := fun c hc => only_call (S := dispatchSignature L) c hc
  have horPanic : ∀ {x : DispatchM L (Except Panic Bool)}, x.run.Only P → (orPanic x).run.Only P :=
    fun hx => only_bind hx (fun _ => .ret _)
  unfold deliverContent
  cases ContentProto.decode (strip_signal_padding plaintext) with
  | none => exact .ret _
  | some content =>
    obtain ⟨data_message, sync_message⟩ := content
    cases data_message with
    | some dm =>
      apply only_bind (horPanic (hask (.deliver_data_message dm remote ts) (hdata dm)))
      intro was_delivered
      cases was_delivered with
      | false => exact .ret _
      | true => exact only_bind (hask (.set_current_recipient remote) hset) (fun _ => hask .redraw hredraw)
    | none =>
      cases sync_message with
      | none => exact .ret _
      | some sync =>
        apply only_bind (horPanic (hask (.deliver_sync_message sync ts) (hsync sync)))
        intro was_delivered
        cases was_delivered with
        | false => exact .ret _
        | true => exact hask .redraw hredraw

structure InboundEnv (L : InboundCrates) where
  sealed_sender_decrypt_to_usmc : Bytes → Pddb → Except SignalProtocolError L.Usmc × Pddb
  message_decrypt_prekey : L.PreKeySignalMessage → ProtocolAddress → ProtocolAddress → Pddb →
    Except SignalProtocolError Bytes × Pddb
  message_decrypt_signal : L.SignalMessage → ProtocolAddress → Pddb → Except SignalProtocolError Bytes × Pddb

def onApp {α : Type} (p : Program appSignature α) (s : App) : α × App :=
  ((p.run App.handler s).value, (p.run App.handler s).state)

def onKeys {α : Type} (f : Pddb → α × Pddb) (s : App) : α × App :=
  ((f s.pddb).1, { s with pddb := (f s.pddb).2 })

def InboundEnv.answer (env : InboundEnv L) : (c : DispatchCall L) → App → c.Reply × App
  | .sealed_sender_decrypt_to_usmc ciphertext, s => onKeys (env.sealed_sender_decrypt_to_usmc ciphertext) s
  | .message_decrypt_prekey msg remote_address local_address, s =>
    onKeys (env.message_decrypt_prekey msg remote_address local_address) s
  | .message_decrypt_signal msg remote_address, s => onKeys (env.message_decrypt_signal msg remote_address) s
  | .deliver_data_message dm remote_addr server_ts, s =>
    onApp (MainWs.deliver_data_message dm remote_addr server_ts).run s
  | .deliver_sync_message sync server_ts, s => onApp (MainWs.deliver_sync_message sync server_ts).run s
  | .set_current_recipient remote_addr, s => onApp (onStore (XousSignalClient.set_current_recipient remote_addr)) s
  | .redraw, s => onApp (toChat .Redraw) s

def InboundEnv.handler (env : InboundEnv L) : Handler (dispatchSignature L) App := ⟨env.answer⟩

end MainWs

end XousSignalClient
