import XousSignalClient.Send.Outcome

namespace XousSignalClient

open Encoding Interaction Fallible

variable {C : Crates}

def SendCall.OnRecipient (sub : Submission) : SendCall C → Prop
  | .message_encrypt ptext remote_address _ => ptext = sub.padded_content ∧ remote_address.name = sub.recipient_uuid
  | .process_prekey_bundle remote_address _ => remote_address.name = sub.recipient_uuid
  | .delete address => address.name = sub.recipient_uuid
  | .get_json url _ => ∃ d : ℕ, keysUrl (C := C) sub.account sub.recipient_uuid (toString d) = .ok url
  | _ => True

section Requests

variable {P : SendCall C → Prop} {sub : Submission}

theorem only_ask {c : SendCall C} (hc : P c) : c.ask.run.Only P :=
  only_call (S := sendSignature C) c hc

theorem only_ofExcept {α : Type} (r : Except SendError α) :
    (Fallible.ofExcept r : SendM C α).run.Only P := .ret _

theorem only_ofExcept_bind {α β : Type} {r : Except SendError α} {f : α → SendM C β}
    (hf : ∀ a, r = .ok a → (f a).run.Only P) : (Fallible.ofExcept r >>= f).run.Only P := by
  cases r with
  | error e => exact .ret _
  | ok a => exact hf a rfl

theorem only_encryptFor (a : ProtocolAddress) (hload : P (.load_session a))
    (hencrypt : P (.message_encrypt sub.padded_content a sub.local_addr)) :
    (encryptFor sub a : SendM C EncryptedMessage).run.Only P := by
  apply only_mapError
  unfold encrypt_padded_for_recipient
  apply only_bind (only_lift (Program.Only.perform (S := sendSignature C) (.load_session _) hload))
  intro loaded
  rcases loaded with e | _ | record
  · exact .ret _
  · exact .ret _
  · cases hreg : C.remote_registration_id record with
    | error e =>
      simp only [hreg]
      exact .ret _
    | ok reg =>
      simp only [hreg]
      apply only_bind (only_lift (Program.Only.perform (S := sendSignature C) (.message_encrypt _ _ _) hencrypt))
      intro encrypted
      cases encrypted with
      | error e => exact .ret _
      | ok ct =>
        cases hpayload : ciphertext_payload ct with
        | error e =>
          simp only [hpayload]
          exact .ret _
        | ok payload =>
          simp only [hpayload]
          exact .ret _

theorem only_encryptForAll (ds : List ℕ) (hload : ∀ a, P (.load_session a))
    (hencrypt : ∀ dev, P (.message_encrypt sub.padded_content ⟨sub.recipient_uuid, dev⟩ sub.local_addr)) :
    (encryptForAll sub ds : SendM C _).run.Only P := by
  induction ds with
  | nil => exact .ret _
  | cons d ds ih =>
    apply only_bind (only_ofExcept _)
    intro dev
    apply only_bind (only_encryptFor _ (hload _) (hencrypt dev))
    intro enc
    exact only_bind ih (fun _ => .ret _)

theorem only_submit_messages (hput : ∀ url auth body, P (.put_json url auth body))
    (uuid : String) (entities : List OutgoingMessageEntity) (ts : UInt64) (account : AccountInfo) :
    (submit_messages uuid entities ts account : SendM C Unit).run.Only P := by
  apply only_bind (only_ofExcept _)
  intro url
  apply only_bind (only_ask (hput _ _ _))
  intro reply
  exact only_bind (only_ofExcept _) (fun _ => only_ofExcept _)

theorem only_deleteListed_at {name : String} {ds : List ℕ}
    (hdelete : ∀ a : ProtocolAddress, a.name = name → a.device_id.val ∈ ds → P (.delete a)) :
    (deleteListed name ds : SendM C Unit).run.Only P := by
  induction ds with
  | nil => exact .ret _
  | cons d ds ih =>
    have hrest := ih (fun a hname hd => hdelete a hname (List.mem_cons_of_mem d hd))
    unfold deleteListed
    cases haddr : device_protocol_address name d with
    | none => exact hrest
    | some addr =>
      obtain ⟨hname, hd⟩ := device_protocol_address_eq_some.mp haddr
      exact only_bind (only_ask (hdelete addr hname (hd ▸ List.mem_cons_self))) (fun _ => hrest)

theorem only_process_one {name : String} {d : ℕ} (pre : PreKeyResponse)
    (hprocess : ∀ a bundle, a.name = name → a.device_id.val = d → P (.process_prekey_bundle a bundle)) :
    (process_one_prekey_bundle name d pre : SendM C Unit).run.Only P := by
  unfold process_one_prekey_bundle
  apply only_bind (only_ofExcept _)
  intro entry
  apply only_bind (only_ofExcept _)
  intro identity_key
  apply only_bind (only_ofExcept _)
  intro bundle
  cases haddr : device_protocol_address name d with
  | none => exact .ret _
  | some addr =>
    obtain ⟨hname, hd⟩ := device_protocol_address_eq_some.mp haddr
    exact only_bind (only_ask (hprocess addr bundle hname hd)) (fun _ => only_ofExcept _)

theorem only_fetchMissing {recipient : ProtocolAddress} {account : AccountInfo} {ds : List ℕ}
    (hget : ∀ (d : ℕ) url auth, keysUrl (C := C) account recipient.name (toString d) = .ok url → P (.get_json url auth))
    (hprocess : ∀ a bundle, a.name = recipient.name → a.device_id.val ∈ ds → P (.process_prekey_bundle a bundle)) :
    (fetchMissing recipient account ds : SendM C Unit).run.Only P := by
  induction ds with
  | nil => exact .ret _
  | cons d ds ih =>
    have hrest := ih (fun a bundle hname hd => hprocess a bundle hname (List.mem_cons_of_mem d hd))
    unfold fetchMissing
    apply only_ofExcept_bind
    intro url hurl
    apply only_bind (only_ask (hget d url _ hurl))
    intro reply
    apply only_bind (only_ofExcept _)
    intro resp
    split_ifs
    · apply only_bind (only_ofExcept _)
      intro pre
      apply only_bind (only_process_one pre _) (fun _ => hrest)
      exact fun a bundle hname hd => hprocess a bundle hname (hd ▸ List.mem_cons_self)
    · exact hrest
    · exact .ret _
    · exact .ret _

end Requests

section OnRecipient

variable {sub : Submission}

theorem only_actOn (dev : DeviceId) (attempt : ℕ) (decision : AttemptDecision) :
    (actOn sub ⟨sub.recipient_uuid, dev⟩ attempt decision : SendM C (Option Bool)).run.Only
      (SendCall.OnRecipient sub) := by
  have hparse : ∀ body, (parse_mismatch body : SendM C DeviceMismatchResponse).run.Only (SendCall.OnRecipient sub) :=
    fun body => only_bind (only_ask trivial) (fun _ => only_ofExcept _)
  have hdelete : ∀ ds, (deleteListed sub.recipient_uuid ds : SendM C Unit).run.Only (SendCall.OnRecipient sub) :=
    fun ds => only_deleteListed_at (fun _ hname _ => hname)
  cases decision with
  | Done => exact .ret _
  | Mismatch409 body =>
    apply only_bind (hparse body)
    intro mm
    apply only_bind
    · exact only_bind (hdelete mm.extra_devices)
        (fun _ => only_fetchMissing (fun d _ _ hurl => ⟨d, hurl⟩) (fun _ _ hname _ => hname))
    · exact fun _ => .ret _
  | Mismatch410 body =>
    apply only_bind (hparse body)
    intro mm
    exact only_bind (hdelete mm.stale_devices) (fun _ => .ret _)
  | Backoff => exact only_bind (only_ask trivial) (fun _ => .ret _)
  | Fatal e => exact .ret _

theorem only_submitAttempt (attempt : ℕ) :
    (submitAttempt sub attempt : SendM C (Option Bool)).run.Only (SendCall.OnRecipient sub) := by
  apply only_bind (only_ask trivial)
  intro device_ids
  cases hids : addressedDevices sub.fallback_device_id sub.excluded_device_id device_ids with
  | none =>
    exact .ret _
  | some devices =>
    apply only_bind (only_ofExcept _)
    intro dev
    apply only_bind (only_encryptForAll devices (fun _ => trivial) (fun _ => ⟨rfl, rfl⟩))
    intro entities
    apply only_bind (only_lift (only_submit_messages (fun _ _ _ => trivial) _ _ _ _))
    exact fun outcome => only_actOn dev attempt _

theorem only_submitLoop (start left : ℕ) :
    (submitLoop sub start left : SendM C Bool).run.Only (SendCall.OnRecipient sub) := by
  induction left with
  | zero => exact only_bind (only_ask trivial) (fun _ => .ret _)
  | succ left ih =>
    apply only_bind (only_ask trivial)
    intro t
    split_ifs
    · exact .ret _
    · apply only_bind (only_submitAttempt _)
      intro next
      cases next with
      | some delivered => exact .ret _
      | none => exact ih

theorem only_submit_padded (sub : Submission) :
    (submit_padded_with_retry_generic sub : SendM C Bool).run.Only (SendCall.OnRecipient sub) :=
  only_bind (only_ask trivial) (fun start => only_submitLoop start MAX_ATTEMPTS)

end OnRecipient

end XousSignalClient
