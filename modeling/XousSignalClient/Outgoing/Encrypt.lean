import XousSignalClient.Crates

namespace XousSignalClient

open Encoding

inductive CiphertextMessage where
  | SignalMessage (serialized : Bytes)
  | PreKeySignalMessage (serialized : Bytes)
  | Other (message_type : String)
  deriving DecidableEq

def ENVELOPE_CIPHERTEXT : ℤ := 1
def ENVELOPE_PREKEY_BUNDLE : ℤ := 3

structure EncryptedMessage where
  ciphertext_bytes : Bytes
  ciphertext_type : ℤ
  destination_device_id : ℕ
  destination_registration_id : ℕ
  timestamp_ms : UInt64
  deriving DecidableEq

inductive OutgoingError where
  | Pddb (text : String)
  | NoRecipient
  | NoLocalAccount (text : String)
  | SessionLoad (text : String)
  | NoSession
  | RegistrationId (text : String)
  | Encrypt (text : String)
  | UnsupportedCiphertextType (text : String)
  | BadDeviceId (device_id : ℕ)
  deriving DecidableEq

def ciphertext_payload : CiphertextMessage → Except OutgoingError (Bytes × ℤ)
  | .SignalMessage s => .ok (s, ENVELOPE_CIPHERTEXT)
  | .PreKeySignalMessage s => .ok (s, ENVELOPE_PREKEY_BUNDLE)
  | .Other t => .error (.UnsupportedCiphertextType t)

/-- Generic in the store and in libsignal, like the source: `load_session` is the store's, and
`message_encrypt` is libsignal's function on the same stores. -/
def encrypt_padded_for_recipient {m : Type → Type} [Monad m] (C : Crates)
    (load_session : ProtocolAddress → m (Except SignalProtocolError (Option C.SessionRecord)))
    (message_encrypt : Bytes → ProtocolAddress → ProtocolAddress →
      m (Except SignalProtocolError CiphertextMessage))
    (padded_content : Bytes) (timestamp_ms : UInt64) (recipient_addr local_addr : ProtocolAddress) :
    ExceptT OutgoingError m EncryptedMessage := do
  match ← ExceptT.lift (load_session recipient_addr) with
  | .error e => throw (.SessionLoad (C.debug e))
  | .ok none => throw .NoSession
  | .ok (some session_record) =>
    match C.remote_registration_id session_record with
    | .error e => throw (.RegistrationId (C.debug e))
    | .ok dest_reg_id =>
      match ← ExceptT.lift (message_encrypt padded_content recipient_addr local_addr) with
      | .error e => throw (.Encrypt (C.debug e))
      | .ok ciphertext_message =>
        match ciphertext_payload ciphertext_message with
        | .error e => throw e
        | .ok (ciphertext_bytes, ciphertext_type) =>
          pure ⟨ciphertext_bytes, ciphertext_type, recipient_addr.device_id.val, dest_reg_id,
            timestamp_ms⟩

end XousSignalClient
