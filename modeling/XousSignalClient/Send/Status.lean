import XousSignalClient.Outgoing.Encrypt

namespace XousSignalClient

open Encoding

def MAX_ATTEMPTS : ℕ := 3
/-- `Duration::from_secs(30)`, in nanoseconds. -/
def RETRY_BUDGET : ℕ := 30 * 10 ^ 9
def BACKOFF_BASE_MS : ℕ := 500
def BACKOFF_CAP_MS : ℕ := 4000

structure OutgoingMessageEntity where
  message_type : ℕ
  destination_device_id : ℕ
  destination_registration_id : ℕ
  content : String
  deriving DecidableEq

structure SubmitMessagesRequest where
  messages : List OutgoingMessageEntity
  online : Bool
  urgent : Bool
  timestamp : UInt64
  deriving DecidableEq

inductive SendError where
  | AuthFailed
  | ServiceIdNotFound
  | PayloadTooLarge
  | ChallengeRequired
  | RetryExhausted
  | Encryption (e : OutgoingError)
  | Account (text : String)
  | Transport (text : String)
  | BadResponse (text : String)
  | Unexpected (status : ℕ)
  deriving DecidableEq

structure HttpResponse where
  status : ℕ
  body : Bytes
  deriving DecidableEq

structure AccountInfo where
  aci_service_id : String
  device_id : ℕ
  password : String
  host : String

def AccountInfo.basic_auth (C : Crates) (account : AccountInfo) : String :=
  let raw := account.aci_service_id ++ "." ++ toString account.device_id ++ ":" ++ account.password
  "Basic " ++ C.b64_encode (utf8 raw)

def AccountInfo.chat_base_url (C : Crates) (account : AccountInfo) : Except SendError C.Url :=
  (C.url_parse ("https://chat." ++ account.host)).mapError
    (fun e => .Account ("host " ++ account.host ++ " invalid: " ++ e))

def enc_to_entity (C : Crates) (enc : EncryptedMessage) : OutgoingMessageEntity where
  message_type := enc.ciphertext_type.toNat
  destination_device_id := enc.destination_device_id
  destination_registration_id := enc.destination_registration_id
  content := C.b64_encode enc.ciphertext_bytes

def interpret_send_status (resp : HttpResponse) : Except SendError Unit :=
  if resp.status = 200 ∨ resp.status = 204 then .ok ()
  else if resp.status = 401 then .error .AuthFailed
  else if resp.status = 404 then .error .ServiceIdNotFound
  else if resp.status = 413 then .error .PayloadTooLarge
  else if resp.status = 428 then .error .ChallengeRequired
  else if resp.status = 409 ∨ resp.status = 410 then
    .error (.BadResponse
      ("MISMATCH " ++ toString resp.status ++ " " ++ from_utf8_lossy resp.body))
  else .error (.Unexpected resp.status)

inductive AttemptDecision where
  | Done
  | Mismatch409 (body : Bytes)
  | Mismatch410 (body : Bytes)
  | Backoff
  | Fatal (e : SendError)
  deriving DecidableEq

def classify_attempt : Except SendError Unit → AttemptDecision
  | .ok () => .Done
  | .error (.BadResponse m) =>
    match strip_prefix m "MISMATCH 409 " with
    | some body => .Mismatch409 (utf8 body)
    | none =>
      match strip_prefix m "MISMATCH 410 " with
      | some body => .Mismatch410 (utf8 body)
      | none => .Fatal (.BadResponse m)
  | .error (.Unexpected code) =>
    if code = 429 ∨ (500 ≤ code ∧ code ≤ 599) then .Backoff else .Fatal (.Unexpected code)
  | .error (.Transport _) => .Backoff
  | .error e => .Fatal e

def backoff (attempt : ℕ) : ℕ := min (BACKOFF_BASE_MS <<< min (attempt - 1) 4) BACKOFF_CAP_MS

inductive PutVerdict where
  | accepted
  | mismatch
  | transient
  | refused (e : SendError)
  deriving DecidableEq

def putVerdict (resp : HttpResponse) : PutVerdict :=
  if resp.status = 200 ∨ resp.status = 204 then .accepted
  else if resp.status = 409 ∨ resp.status = 410 then .mismatch
  else if resp.status = 429 ∨ (500 ≤ resp.status ∧ resp.status ≤ 599) then .transient
  else if resp.status = 401 then .refused .AuthFailed
  else if resp.status = 404 then .refused .ServiceIdNotFound
  else if resp.status = 413 then .refused .PayloadTooLarge
  else if resp.status = 428 then .refused .ChallengeRequired
  else .refused (.Unexpected resp.status)

def putOutcome : Except String HttpResponse → PutVerdict
  | .error _ => .transient
  | .ok resp => putVerdict resp

/-- The body handed to `parse_mismatch`, after its way through the marker text. -/
def mismatchBody (resp : HttpResponse) : Bytes := utf8 (from_utf8_lossy resp.body)

theorem strip_mismatch_409 (t : String) : strip_prefix ("MISMATCH 409 " ++ t) "MISMATCH 409 " = some t :=
  strip_prefix_eq_some.mpr rfl

theorem strip_mismatch_410 (t : String) :
    strip_prefix ("MISMATCH 410 " ++ t) "MISMATCH 409 " = none ∧
      strip_prefix ("MISMATCH 410 " ++ t) "MISMATCH 410 " = some t := by
  refine ⟨?_, strip_prefix_eq_some.mpr rfl⟩
  cases h : strip_prefix ("MISMATCH 410 " ++ t) "MISMATCH 409 " with
  | none => rfl
  | some rest =>
    have hl := congrArg String.toList (strip_prefix_eq_some.mp h)
    simp [String.toList_append] at hl

theorem mismatchBody_of_valid {resp : HttpResponse} {t : String} (h : from_utf8 resp.body = some t) :
    mismatchBody resp = resp.body := by
  rw [mismatchBody, from_utf8_lossy_of_valid h]
  exact (from_utf8_eq_some.mp h).symm

theorem classify_refused {resp : HttpResponse} {e : SendError} (h : putVerdict resp = .refused e) :
    classify_attempt (interpret_send_status resp) = .Fatal e := by
  unfold putVerdict at h
  unfold interpret_send_status
  split_ifs at h ⊢ <;> simp_all [classify_attempt]

theorem classify_transient {resp : HttpResponse} (h : putVerdict resp = .transient) :
    classify_attempt (interpret_send_status resp) = .Backoff := by
  unfold putVerdict at h
  unfold interpret_send_status
  split_ifs at h ⊢ <;> simp_all [classify_attempt]

theorem classify_accepted {resp : HttpResponse} (h : putVerdict resp = .accepted) :
    classify_attempt (interpret_send_status resp) = .Done := by
  unfold putVerdict at h
  split_ifs at h with h2
  rw [interpret_send_status, if_pos h2]
  rfl

theorem classify_mismatch {resp : HttpResponse} (h : putVerdict resp = .mismatch) :
    (resp.status = 409 ∧
        classify_attempt (interpret_send_status resp) = .Mismatch409 (mismatchBody resp)) ∨
      (resp.status = 410 ∧
        classify_attempt (interpret_send_status resp) = .Mismatch410 (mismatchBody resp)) := by
  unfold putVerdict at h
  split_ifs at h with h2 h9
  rcases h9 with h9 | h9
  · refine .inl ⟨h9, ?_⟩
    have hm : interpret_send_status resp =
        .error (.BadResponse ("MISMATCH 409 " ++ from_utf8_lossy resp.body)) := by
      simp [interpret_send_status, h9]
      rfl
    simp only [hm, classify_attempt, strip_mismatch_409]
    rfl
  · refine .inr ⟨h9, ?_⟩
    have hm : interpret_send_status resp =
        .error (.BadResponse ("MISMATCH 410 " ++ from_utf8_lossy resp.body)) := by
      simp [interpret_send_status, h9]
      rfl
    simp only [hm, classify_attempt, strip_mismatch_410]
    rfl

end XousSignalClient
