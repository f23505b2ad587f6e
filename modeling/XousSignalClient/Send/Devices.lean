import XousSignalClient.Interaction.Fallible
import XousSignalClient.Send.Status

namespace XousSignalClient

open Encoding Interaction

/-- What the send path asks of its surroundings: the clock, the stores, libsignal, the HTTP client
and the sleeper. Parsing a 409/410 body is a request too, so that it shows in the trace. -/
inductive SendCall (C : Crates) where
  | now
  | device_ids_for (recipient_uuid : String)
  | load_session (address : ProtocolAddress)
  | message_encrypt (ptext : Bytes) (remote_address local_address : ProtocolAddress)
  | process_prekey_bundle (remote_address : ProtocolAddress) (bundle : C.PreKeyBundle)
  | delete (address : ProtocolAddress)
  | put_json (url auth : String) (body : SubmitMessagesRequest)
  | get_json (url auth : String)
  | mismatch_from_slice (body : Bytes)
  | sleep (ms : ℕ)

def SendCall.Reply {C : Crates} : SendCall C → Type
  | .now => ℕ
  | .device_ids_for _ => List ℕ
  | .load_session _ => Except SignalProtocolError (Option C.SessionRecord)
  | .message_encrypt _ _ _ => Except SignalProtocolError CiphertextMessage
  | .process_prekey_bundle _ _ => Except SignalProtocolError Unit
  | .delete _ => Unit
  | .put_json _ _ _ => Except String HttpResponse
  | .get_json _ _ => Except String HttpResponse
  | .mismatch_from_slice _ => Except String DeviceMismatchResponse
  | .sleep _ => Unit

def sendSignature (C : Crates) : Signature := ⟨SendCall C, SendCall.Reply⟩

abbrev SendM (C : Crates) (α : Type) := Fallible (sendSignature C) SendError α

def SendCall.ask {C : Crates} (c : SendCall C) : SendM C c.Reply :=
  Fallible.call (S := sendSignature C) c

def orFail {C : Crates} {ε α : Type} (f : ε → SendError) (r : Except ε α) : SendM C α :=
  Fallible.ofExcept (r.mapError f)

section PreKeys

variable (C : Crates)

def decodeBase64 (label : String) (b64 : String) : Except SendError Bytes :=
  (C.b64_decode b64).mapError (fun e => .BadResponse (label ++ " b64: " ++ e))

def decode_identity_key (b64 : String) : Except SendError C.IdentityKey := do
  let bytes ← decodeBase64 C "identity key" b64
  (C.identity_key_decode bytes).mapError (fun e => .BadResponse ("identity key decode: " ++ C.debug e))

def decode_ec_public (b64 : String) : Except SendError C.PublicKey := do
  let bytes ← decodeBase64 C "ec pub" b64
  (C.public_key_deserialize bytes).mapError (fun e => .BadResponse ("ec pub decode: " ++ C.debug e))

def decode_kyber_public (b64 : String) : Except SendError C.KemPublicKey := do
  let bytes ← decodeBase64 C "kyber pub" b64
  (C.kem_public_key_deserialize bytes).mapError
    (fun e => .BadResponse ("kyber pub decode: " ++ C.debug e))

def outOfRange (label : String) (d : ℕ) : SendError :=
  .BadResponse (label ++ toString d ++ " out of range")

def to_device_id (label : String) (d : ℕ) : Except SendError DeviceId :=
  if d < 2 ^ 8 then
    match DeviceId.new d with
    | some i => .ok i
    | none => .error (.BadResponse "DeviceId: InvalidDeviceId")
  else .error (outOfRange label d)

def decodeOneTime : Option PreKeyEntry → Except SendError (Option (ℕ × C.PublicKey))
  | some p => (decode_ec_public C p.public_key).map (fun k => some (p.key_id, k))
  | none => .ok none

def build_prekey_bundle (entry : DeviceEntry) (identity_key : C.IdentityKey) :
    Except SendError C.PreKeyBundle := do
  let device ← to_device_id "device id " entry.device_id
  let signed_pub ← decode_ec_public C entry.signed_pre_key.public_key
  let signed_sig ← decodeBase64 C "signed pk sig" entry.signed_pre_key.signature
  let kyber_pub ← decode_kyber_public C entry.pq_pre_key.public_key
  let kyber_sig ← decodeBase64 C "kyber pk sig" entry.pq_pre_key.signature
  let one_time ← decodeOneTime C entry.pre_key
  (C.prekey_bundle_new entry.registration_id device one_time entry.signed_pre_key.key_id signed_pub
    signed_sig entry.pq_pre_key.key_id kyber_pub kyber_sig identity_key).mapError
    (fun e => .BadResponse ("PreKeyBundle::new: " ++ C.debug e))

end PreKeys

section Devices

variable {C : Crates}

/-- The entry a single-device response is read for: the requested device, else the first. -/
def requestedEntry (device_id : ℕ) (devices : List DeviceEntry) : Except SendError DeviceEntry :=
  match (devices.find? (fun d => d.device_id = device_id)).or devices.head? with
  | some entry => .ok entry
  | none => .error (.BadResponse "prekey response: empty devices")

def process_one_prekey_bundle (recipient_uuid : String) (device_id : ℕ) (pre : PreKeyResponse) :
    SendM C Unit := do
  let entry ← Fallible.ofExcept (requestedEntry device_id pre.devices)
  let identity_key ← Fallible.ofExcept (decode_identity_key C pre.identity_key)
  let bundle ← Fallible.ofExcept (build_prekey_bundle C entry identity_key)
  match device_protocol_address recipient_uuid device_id with
  | none => throw (outOfRange "device id " device_id)
  | some dev_addr =>
    let processed ← (SendCall.process_prekey_bundle dev_addr bundle).ask
    orFail (fun e => .BadResponse ("process_prekey_bundle: " ++ C.debug e)) processed

def deleteListed (name : String) : List ℕ → SendM C Unit
  | [] => pure ()
  | d :: ds => do
    match device_protocol_address name d with
    | some addr =>
      let _ ← (SendCall.delete addr).ask
      deleteListed name ds
    | none => deleteListed name ds

def handle_stale_devices (recipient : ProtocolAddress) (mm : DeviceMismatchResponse) : SendM C Unit :=
  deleteListed recipient.name mm.stale_devices

def keysUrl (account : AccountInfo) (uuid device : String) : Except SendError String := do
  let url ← account.chat_base_url C
  pure (C.as_str (C.set_path url ("/v2/keys/" ++ uuid ++ "/" ++ device)))

def fetchMissing (recipient : ProtocolAddress) (account : AccountInfo) : List ℕ → SendM C Unit
  | [] => pure ()
  | d :: ds => do
    let url ← Fallible.ofExcept (keysUrl (C := C) account recipient.name (toString d))
    let reply ← (SendCall.get_json url (account.basic_auth C)).ask
    let resp ← orFail (fun e => .Transport ("get prekeys: " ++ e)) reply
    if resp.status = 200 then
      let pre ← orFail (fun e => .BadResponse ("prekey response parse: " ++ e))
        (C.prekey_response_from_slice resp.body)
      process_one_prekey_bundle recipient.name d pre
      fetchMissing recipient account ds
    else if resp.status = 404 then fetchMissing recipient account ds
    else if resp.status = 401 then throw .AuthFailed
    else throw (.Unexpected resp.status)

def handle_mismatched_devices (recipient : ProtocolAddress) (mm : DeviceMismatchResponse)
    (account : AccountInfo) : SendM C Unit := do
  deleteListed recipient.name mm.extra_devices
  fetchMissing recipient account mm.missing_devices

def establishAll (account_uuid : String) (excluded_device_id : Option ℕ) (identity_key : C.IdentityKey) :
    List DeviceEntry → SendM C (List ℕ)
  | [] => pure []
  | entry :: entries => do
    if some entry.device_id = excluded_device_id then
      establishAll account_uuid excluded_device_id identity_key entries
    else
      let bundle ← Fallible.ofExcept (build_prekey_bundle C entry identity_key)
      match device_protocol_address account_uuid entry.device_id with
      | none => throw (outOfRange "device id " entry.device_id)
      | some dev_addr =>
        let processed ← (SendCall.process_prekey_bundle dev_addr bundle).ask
        orFail (fun e => .BadResponse ("discover process_prekey_bundle for " ++ account_uuid ++ "/" ++
          toString entry.device_id ++ ": " ++ C.debug e)) processed
        let established ← establishAll account_uuid excluded_device_id identity_key entries
        pure (entry.device_id :: established)

def discover_and_establish_account_devices (account_uuid : String) (excluded_device_id : Option ℕ)
    (account : AccountInfo) : SendM C (List ℕ) := do
  let url ← Fallible.ofExcept (keysUrl (C := C) account account_uuid "*")
  let reply ← (SendCall.get_json url (account.basic_auth C)).ask
  let resp ← orFail (fun e => .Transport ("discover devices: " ++ e)) reply
  if resp.status = 200 then
    let pre ← orFail (fun e => .BadResponse ("discover prekey parse: " ++ e))
      (C.prekey_response_from_slice resp.body)
    let identity_key ← Fallible.ofExcept (decode_identity_key C pre.identity_key)
    establishAll account_uuid excluded_device_id identity_key pre.devices
  else if resp.status = 401 then throw .AuthFailed
  else if resp.status = 404 then pure []
  else throw (.Unexpected resp.status)

end Devices

end XousSignalClient
