import XousSignalClient.Outgoing.Content
import XousSignalClient.Send.Devices

namespace XousSignalClient

open Encoding Interaction

variable {C : Crates}

def submit_messages (recipient_uuid : String) (entities : List OutgoingMessageEntity)
    (timestamp_ms : UInt64) (account : AccountInfo) : SendM C Unit := do
  let url ← Fallible.ofExcept (account.chat_base_url C)
  let url := C.set_path url ("/v1/messages/" ++ recipient_uuid)
  let req : SubmitMessagesRequest := ⟨entities, false, true, timestamp_ms⟩
  let reply ← (SendCall.put_json (C.as_str url) (account.basic_auth C) req).ask
  let resp ← orFail .Transport reply
  Fallible.ofExcept (interpret_send_status resp)

def parse_mismatch (body : Bytes) : SendM C DeviceMismatchResponse := do
  let parsed ← (SendCall.mismatch_from_slice body).ask
  orFail (fun e => .BadResponse ("mismatch parse: " ++ e)) parsed

def addressedDevices (fallback_device_id : ℕ) (excluded_device_id : Option ℕ) (device_ids : List ℕ) :
    Option (List ℕ) :=
  match excluded_device_id with
  | some excl =>
    let device_ids := device_ids.filter (· ≠ excl)
    if device_ids.isEmpty then none else some device_ids
  | none => if device_ids.isEmpty then some [fallback_device_id] else some device_ids

structure Submission where
  padded_content : Bytes
  timestamp_ms : UInt64
  recipient_uuid : String
  fallback_device_id : ℕ
  excluded_device_id : Option ℕ
  local_addr : ProtocolAddress
  account : AccountInfo

def encryptFor (sub : Submission) (recipient_addr : ProtocolAddress) : SendM C EncryptedMessage :=
  Fallible.mapError .Encryption
    (encrypt_padded_for_recipient (m := Program (sendSignature C)) C
      (fun a => Program.perform (S := sendSignature C) (.load_session a))
      (fun ptext remote_address local_address =>
        Program.perform (S := sendSignature C) (.message_encrypt ptext remote_address local_address))
      sub.padded_content sub.timestamp_ms recipient_addr sub.local_addr)

def encryptForAll (sub : Submission) : List ℕ → SendM C (List OutgoingMessageEntity)
  | [] => pure []
  | d :: ds => do
    let dev ← Fallible.ofExcept (to_device_id "device id " d)
    let enc ← encryptFor sub ⟨sub.recipient_uuid, dev⟩
    let entities ← encryptForAll sub ds
    pure (enc_to_entity C enc :: entities)

def actOn (sub : Submission) (recipient_addr_for_handlers : ProtocolAddress) (attempt : ℕ) :
    AttemptDecision → SendM C (Option Bool)
  | .Done => pure (some true)
  | .Mismatch409 body => do
    let mm ← parse_mismatch body
    handle_mismatched_devices recipient_addr_for_handlers mm sub.account
    pure none
  | .Mismatch410 body => do
    let mm ← parse_mismatch body
    handle_stale_devices recipient_addr_for_handlers mm
    pure none
  | .Backoff => do
    let _ ← (SendCall.sleep (backoff attempt)).ask
    pure none
  | .Fatal e => throw e

def submitAttempt (sub : Submission) (attempt : ℕ) : SendM C (Option Bool) := do
  let device_ids ← (SendCall.device_ids_for sub.recipient_uuid).ask
  match addressedDevices sub.fallback_device_id sub.excluded_device_id device_ids with
  | none => pure (some false)
  | some device_ids =>
    let dev ← Fallible.ofExcept (to_device_id "fallback device id " sub.fallback_device_id)
    let recipient_addr_for_handlers : ProtocolAddress := ⟨sub.recipient_uuid, dev⟩
    let entities ← encryptForAll sub device_ids
    let outcome ← (submit_messages sub.recipient_uuid entities sub.timestamp_ms sub.account).attempt
    actOn sub recipient_addr_for_handlers attempt (classify_attempt outcome)

def submitLoop (sub : Submission) (start : ℕ) : ℕ → SendM C Bool
  | 0 => do
    let _ ← SendCall.now.ask
    throw .RetryExhausted
  | left + 1 => do
    let t : ℕ ← SendCall.now.ask
    if RETRY_BUDGET < t - start then throw .RetryExhausted
    else
      match ← submitAttempt sub (MAX_ATTEMPTS - left) with
      | some delivered => pure delivered
      | none => submitLoop sub start left

def submit_padded_with_retry_generic (sub : Submission) : SendM C Bool := do
  let start : ℕ ← SendCall.now.ask
  submitLoop sub start MAX_ATTEMPTS

def submit_with_retry_generic (plaintext : String) (timestamp_ms : UInt64)
    (recipient_addr local_addr : ProtocolAddress) (account : AccountInfo) : SendM C Unit := do
  let padded := build_padded_data_message_content plaintext timestamp_ms
  let _delivered ← submit_padded_with_retry_generic
    ⟨padded, timestamp_ms, recipient_addr.name, recipient_addr.device_id.val, none, local_addr, account⟩
  pure ()

def submit_sync_transcript_generic (plaintext recipient_uuid : String) (timestamp_ms : UInt64)
    (own_uuid : String) (own_device_id : ℕ) (local_addr : ProtocolAddress) (account : AccountInfo) :
    SendM C Unit := do
  let known ← (SendCall.device_ids_for own_uuid).ask
  let padded := build_padded_sync_transcript_content recipient_uuid plaintext timestamp_ms
  let sub : Submission :=
    ⟨padded, timestamp_ms, own_uuid, own_device_id, some own_device_id, local_addr, account⟩
  if (List.filter (fun d => d ≠ own_device_id) known).isEmpty then
    match ← (discover_and_establish_account_devices own_uuid (some own_device_id) account).attempt with
    | .ok [] => pure ()
    | .error _ => pure ()
    | .ok (_ :: _) =>
      let _delivered ← submit_padded_with_retry_generic sub
      pure ()
  else
    let _delivered ← submit_padded_with_retry_generic sub
    pure ()

def submit_with_retry_with_stores (plaintext : String) (timestamp_ms : UInt64)
    (recipient_addr local_addr : ProtocolAddress) (account : AccountInfo) : SendM C Unit := do
  submit_with_retry_generic plaintext timestamp_ms recipient_addr local_addr account
  let _sync_result : Except SendError Unit ←
    (submit_sync_transcript_generic plaintext recipient_addr.name timestamp_ms
      account.aci_service_id account.device_id local_addr account).attempt
  pure ()

end XousSignalClient
