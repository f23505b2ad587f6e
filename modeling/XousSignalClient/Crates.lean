import XousSignalClient.SessionStore

namespace XousSignalClient

open Encoding

structure SignedPreKeyEntry where
  key_id : ℕ
  public_key : String
  signature : String

structure PreKeyEntry where
  key_id : ℕ
  public_key : String

structure KyberPreKeyEntry where
  key_id : ℕ
  public_key : String
  signature : String

structure DeviceEntry where
  device_id : ℕ
  registration_id : ℕ
  signed_pre_key : SignedPreKeyEntry
  pre_key : Option PreKeyEntry
  pq_pre_key : KyberPreKeyEntry

structure PreKeyResponse where
  identity_key : String
  devices : List DeviceEntry

structure DeviceMismatchResponse where
  missing_devices : List ℕ
  extra_devices : List ℕ
  stale_devices : List ℕ
  deriving DecidableEq

/-- The functions of third-party crates that the send path calls on plain values: libsignal's
formats, `url`, `base64` and `serde_json`. Errors carry the text the caller formats. -/
structure Crates extends SessionFormat where
  debug : SignalProtocolError → String
  IdentityKey : Type
  PublicKey : Type
  KemPublicKey : Type
  identity_key_decode : Bytes → Except SignalProtocolError IdentityKey
  public_key_deserialize : Bytes → Except SignalProtocolError PublicKey
  kem_public_key_deserialize : Bytes → Except SignalProtocolError KemPublicKey
  Url : Type
  url_parse : String → Except String Url
  set_path : Url → String → Url
  as_str : Url → String
  b64_encode : Bytes → String
  b64_decode : String → Except String Bytes
  prekey_response_from_slice : Bytes → Except String PreKeyResponse
  mismatch_from_slice : Bytes → Except String DeviceMismatchResponse
  PreKeyBundle : Type
  prekey_bundle_new : (registration_id : ℕ) → (device_id : DeviceId) →
    (pre_key : Option (ℕ × PublicKey)) → (signed_pre_key_id : ℕ) → (signed_pre_key : PublicKey) →
    (signed_pre_key_signature : Bytes) → (kyber_pre_key_id : ℕ) → (kyber_pre_key : KemPublicKey) →
    (kyber_pre_key_signature : Bytes) → (identity_key : IdentityKey) →
    Except SignalProtocolError PreKeyBundle

end XousSignalClient
