import XousSignalClient.Interaction.Ensures
import XousSignalClient.Send.Retry

namespace XousSignalClient

open Encoding Interaction

variable {C : Crates} {σ : Type}

abbrev SendEvent (C : Crates) (σ : Type) := Event (sendSignature C) σ

def sendEvent (s : σ) (c : SendCall C) (r : c.Reply) : SendEvent C σ := ⟨s, c, r⟩

inductive EncryptRun (sub : Submission) (a : ProtocolAddress) :
    List (SendEvent C σ) → Except SendError OutgoingMessageEntity → Prop where
  | unloaded (s : σ) (loaded : Except SignalProtocolError (Option C.SessionRecord)) (e : OutgoingError)
      (hfail : ∀ record reg, loaded = .ok (some record) → C.remote_registration_id record ≠ .ok reg) :
      EncryptRun sub a [sendEvent s (.load_session a) loaded] (.error (.Encryption e))
  | unencrypted (s s' : σ) (loaded : Except SignalProtocolError (Option C.SessionRecord))
      (encrypted : Except SignalProtocolError CiphertextMessage) (e : OutgoingError)
      (hload : ∃ record reg, loaded = .ok (some record) ∧ C.remote_registration_id record = .ok reg)
      (hfail : ∀ ct payload, encrypted = .ok ct → ciphertext_payload ct ≠ .ok payload) :
      EncryptRun sub a [sendEvent s (.load_session a) loaded,
        sendEvent s' (.message_encrypt sub.padded_content a sub.local_addr) encrypted]
        (.error (.Encryption e))
  | done (s s' : σ) (record : C.SessionRecord) (reg : ℕ) (ct : CiphertextMessage) (bytes : Bytes)
      (ty : ℤ) (hreg : C.remote_registration_id record = .ok reg)
      (hpayload : ciphertext_payload ct = .ok (bytes, ty)) :
      EncryptRun sub a [sendEvent s (.load_session a) (.ok (some record)),
        sendEvent s' (.message_encrypt sub.padded_content a sub.local_addr) (.ok ct)]
        (.ok (enc_to_entity C ⟨bytes, ty, a.device_id.val, reg, sub.timestamp_ms⟩))

inductive FanRun (sub : Submission) :
    List ℕ → List (SendEvent C σ) → Except SendError (List OutgoingMessageEntity) → Prop where
  | nil : FanRun sub [] [] (.ok [])
  | badId (d : ℕ) (ds : List ℕ) (text : String) : FanRun sub (d :: ds) [] (.error (.BadResponse text))
  | failed (dev : DeviceId) (ds : List ℕ) (es : List (SendEvent C σ)) (e : SendError)
      (henc : EncryptRun sub ⟨sub.recipient_uuid, dev⟩ es (.error e)) :
      FanRun sub (dev.val :: ds) es (.error e)
  | cons (dev : DeviceId) (ds : List ℕ) (es es' : List (SendEvent C σ))
      (entity : OutgoingMessageEntity) (r : Except SendError (List OutgoingMessageEntity))
      (henc : EncryptRun sub ⟨sub.recipient_uuid, dev⟩ es (.ok entity)) (hrest : FanRun sub ds es' r) :
      FanRun sub (dev.val :: ds) (es ++ es') (r.map (entity :: ·))

def SendCall.IsRepair : SendCall C → Prop
  | .delete _ | .get_json _ _ | .process_prekey_bundle _ _ => True
  | _ => False

inductive AfterPut (k : ℕ) :
    Except String HttpResponse → List (SendEvent C σ) → Except SendError (Option Bool) → Prop where
  | accepted (reply : Except String HttpResponse) (h : putOutcome reply = .accepted) :
      AfterPut k reply [] (.ok (some true))
  | refused (reply : Except String HttpResponse) (e : SendError) (h : putOutcome reply = .refused e) :
      AfterPut k reply [] (.error e)
  | transient (reply : Except String HttpResponse) (s : σ) (h : putOutcome reply = .transient) :
      AfterPut k reply [sendEvent s (.sleep (backoff k)) ()] (.ok none)
  | mismatch (resp : HttpResponse) (s : σ) (parsed : Except String DeviceMismatchResponse)
      (repair : List (SendEvent C σ)) (r : Except SendError (Option Bool))
      (h : putOutcome (.ok resp) = .mismatch) (hrepair : ∀ e ∈ repair, SendCall.IsRepair e.call)
      (hr : r = .ok none ∨ ∃ e, e ≠ .RetryExhausted ∧ r = .error e) :
      AfterPut k (.ok resp)
        (sendEvent s (.mismatch_from_slice (mismatchBody resp)) parsed :: repair) r

inductive AttemptRun (sub : Submission) (k : ℕ) :
    List (SendEvent C σ) → Except SendError (Option Bool) → Prop where
  | skipped (s : σ) (ids : List ℕ)
      (hids : addressedDevices sub.fallback_device_id sub.excluded_device_id ids = none) :
      AttemptRun sub k [sendEvent s (.device_ids_for sub.recipient_uuid) ids] (.ok (some false))
  | unaddressed (s : σ) (ids : List ℕ) (text : String) :
      AttemptRun sub k [sendEvent s (.device_ids_for sub.recipient_uuid) ids]
        (.error (.BadResponse text))
  | unsent (s : σ) (ids devices : List ℕ) (fan : List (SendEvent C σ))
      (r : Except SendError (List OutgoingMessageEntity)) (e : SendError)
      (hids : addressedDevices sub.fallback_device_id sub.excluded_device_id ids = some devices)
      (hfan : FanRun sub devices fan r) (he : e ≠ .RetryExhausted) :
      AttemptRun sub k (sendEvent s (.device_ids_for sub.recipient_uuid) ids :: fan) (.error e)
  | sent (s s' : σ) (ids devices : List ℕ) (fan : List (SendEvent C σ))
      (entities : List OutgoingMessageEntity) (url auth : String)
      (reply : Except String HttpResponse) (tail : List (SendEvent C σ))
      (r : Except SendError (Option Bool))
      (hids : addressedDevices sub.fallback_device_id sub.excluded_device_id ids = some devices)
      (hfan : FanRun sub devices fan (.ok entities)) (htail : AfterPut k reply tail r) :
      AttemptRun sub k (sendEvent s (.device_ids_for sub.recipient_uuid) ids :: (fan ++
        sendEvent s' (.put_json url auth ⟨entities, false, true, sub.timestamp_ms⟩) reply :: tail)) r

inductive LoopRun (sub : Submission) (start : ℕ) :
    ℕ → List (SendEvent C σ) → Except SendError Bool → Prop where
  | expired (left : ℕ) (s : σ) (t : ℕ) (ht : RETRY_BUDGET < t - start) :
      LoopRun sub start left [sendEvent s .now t] (.error .RetryExhausted)
  | exhausted (s : σ) (t : ℕ) : LoopRun sub start 0 [sendEvent s .now t] (.error .RetryExhausted)
  | returned (left : ℕ) (s : σ) (t : ℕ) (es : List (SendEvent C σ)) (delivered : Bool)
      (h : AttemptRun sub (MAX_ATTEMPTS - left) es (.ok (some delivered))) :
      LoopRun sub start (left + 1) (sendEvent s .now t :: es) (.ok delivered)
  | failed (left : ℕ) (s : σ) (t : ℕ) (es : List (SendEvent C σ)) (e : SendError)
      (h : AttemptRun sub (MAX_ATTEMPTS - left) es (.error e)) :
      LoopRun sub start (left + 1) (sendEvent s .now t :: es) (.error e)
  | again (left : ℕ) (s : σ) (t : ℕ) (es es' : List (SendEvent C σ)) (r : Except SendError Bool)
      (h : AttemptRun sub (MAX_ATTEMPTS - left) es (.ok none)) (hrest : LoopRun sub start left es' r) :
      LoopRun sub start (left + 1) (sendEvent s .now t :: (es ++ es')) r

end XousSignalClient
