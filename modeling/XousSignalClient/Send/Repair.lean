import XousSignalClient.Send.Trace

namespace XousSignalClient

open Encoding Interaction Fallible

section BadResponses

variable {α β : Type}

def BadResponseOnly (r : Except SendError α) : Prop := ∀ e, r = .error e → ∃ text, e = .BadResponse text

theorem badResponseOnly_ok (a : α) : BadResponseOnly (.ok a : Except SendError α) := nofun

theorem badResponseOnly_mapError {ε : Type} (f : ε → String) (r : Except ε α) :
    BadResponseOnly (r.mapError (fun e => SendError.BadResponse (f e))) := by
  intro e h
  cases r with
  | ok a => cases h
  | error e' => cases h; exact ⟨_, rfl⟩

theorem badResponseOnly_bind {r : Except SendError α} {f : α → Except SendError β}
    (hr : BadResponseOnly r) (hf : ∀ a, BadResponseOnly (f a)) : BadResponseOnly (r >>= f) := by
  intro e h
  cases r with
  | ok a => exact hf a e h
  | error e' => cases h; exact hr e rfl

theorem badResponseOnly_map {r : Except SendError α} (f : α → β) (hr : BadResponseOnly r) :
    BadResponseOnly (r.map f) := by
  intro e h
  cases r with
  | ok a => cases h
  | error e' => cases h; exact hr e rfl

theorem badResponseOnly_to_device_id (label : String) (d : ℕ) :
    BadResponseOnly (to_device_id label d) := by
  intro e h
  unfold to_device_id at h
  split at h
  · split at h
    · cases h
    · cases h; exact ⟨_, rfl⟩
  · cases h; exact ⟨_, rfl⟩

theorem to_device_id_val {label : String} {d : ℕ} {dev : DeviceId} (h : to_device_id label d = .ok dev) :
    dev.val = d := by
  unfold to_device_id at h
  split at h
  · split at h
    next i hi =>
      obtain rfl := Except.ok.inj h
      exact DeviceId.new_eq_some.mp hi
    next => cases h
  · cases h

theorem to_device_id_ok (label : String) (dev : DeviceId) : to_device_id label dev.val = .ok dev := by
  have hv := dev.valid
  unfold to_device_id
  rw [if_pos (by omega), DeviceId.new_val]

theorem badResponseOnly_requestedEntry (d : ℕ) (devices : List DeviceEntry) :
    BadResponseOnly (requestedEntry d devices) := by
  intro e h
  unfold requestedEntry at h
  split at h
  · cases h
  · cases h; exact ⟨_, rfl⟩

variable (C : Crates)

theorem badResponseOnly_decode_ec_public (b64 : String) : BadResponseOnly (decode_ec_public C b64) :=
  badResponseOnly_bind (badResponseOnly_mapError _ _) (fun _ => badResponseOnly_mapError _ _)

theorem badResponseOnly_decode_identity_key (b64 : String) :
    BadResponseOnly (decode_identity_key C b64) :=
  badResponseOnly_bind (badResponseOnly_mapError _ _) (fun _ => badResponseOnly_mapError _ _)

theorem badResponseOnly_decodeOneTime (pre_key : Option PreKeyEntry) :
    BadResponseOnly (decodeOneTime C pre_key) := by
  cases pre_key with
  | none => exact badResponseOnly_ok _
  | some p => exact badResponseOnly_map _ (badResponseOnly_decode_ec_public C _)

theorem badResponseOnly_build_prekey_bundle (entry : DeviceEntry) (k : C.IdentityKey) :
    BadResponseOnly (build_prekey_bundle C entry k) := by
  unfold build_prekey_bundle
  apply badResponseOnly_bind (badResponseOnly_to_device_id _ _)
  intro device
  apply badResponseOnly_bind (badResponseOnly_decode_ec_public C _)
  intro signed_pub
  apply badResponseOnly_bind (badResponseOnly_mapError _ _)
  intro signed_sig
  apply badResponseOnly_bind
    (badResponseOnly_bind (badResponseOnly_mapError _ _) (fun _ => badResponseOnly_mapError _ _))
  intro kyber_pub
  apply badResponseOnly_bind (badResponseOnly_mapError _ _)
  intro kyber_sig
  apply badResponseOnly_bind (badResponseOnly_decodeOneTime C _)
  intro one_time
  exact badResponseOnly_mapError _ _

end BadResponses

variable {C : Crates} {σ α β : Type} {h : Handler (sendSignature C) σ}

def Repairs (h : Handler (sendSignature C) σ) (x : SendM C α) : Prop :=
  ∀ s, Ensures h x s (fun v _ es =>
    (∀ e ∈ es, SendCall.IsRepair e.call) ∧ v ≠ .error .RetryExhausted)

theorem repairs_pure (a : α) : Repairs h (pure a) := fun _ => ⟨by simp, nofun⟩

theorem repairs_throw {e : SendError} (he : e ≠ .RetryExhausted) :
    Repairs h (throw e : SendM C α) :=
  fun _ => ⟨by simp, fun hv => he (Except.error.inj hv)⟩

theorem repairs_bind {x : SendM C β} {f : β → SendM C α} (hx : Repairs h x)
    (hf : ∀ b, Repairs h (f b)) : Repairs h (x >>= f) := by
  intro s
  apply ensures_bind (hx s)
  · rintro e t es ⟨hes, hv⟩
    exact ⟨hes, fun hv' => hv (congrArg _ (Except.error.inj hv'))⟩
  · rintro b t es ⟨hes, -⟩
    apply (hf b t).mono
    rintro v u es' ⟨hes', hv⟩
    refine ⟨?_, hv⟩
    intro e he
    exact (List.mem_append.mp he).elim (hes e) (hes' e)

theorem repairs_ask {c : SendCall C} (hc : c.IsRepair) : Repairs h c.ask := by
  intro s
  refine ⟨?_, nofun⟩
  intro e he
  rw [List.mem_singleton.mp he]
  exact hc

theorem repairs_ofExcept {r : Except SendError α} (hr : r ≠ .error .RetryExhausted) :
    Repairs h (Fallible.ofExcept r : SendM C α) := fun _ => ⟨by simp, hr⟩

theorem repairs_badResponseOnly {r : Except SendError α} (hr : BadResponseOnly r) :
    Repairs h (Fallible.ofExcept r : SendM C α) := by
  apply repairs_ofExcept
  intro he
  obtain ⟨text, htext⟩ := hr _ he
  cases htext

theorem repairs_orFail {ε : Type} {f : ε → SendError} (hf : ∀ e, f e ≠ .RetryExhausted)
    (r : Except ε α) : Repairs h (orFail f r : SendM C α) := by
  apply repairs_ofExcept
  cases r with
  | ok a => exact nofun
  | error e => exact fun he => hf e (Except.error.inj he)

theorem repairs_deleteListed (name : String) (ds : List ℕ) :
    Repairs h (deleteListed (C := C) name ds) := by
  induction ds with
  | nil => exact repairs_pure ()
  | cons d ds ih =>
    unfold deleteListed
    cases device_protocol_address name d with
    | none => exact ih
    | some addr => exact repairs_bind (repairs_ask trivial) (fun _ => ih)

theorem repairs_process_one_prekey_bundle (uuid : String) (d : ℕ) (pre : PreKeyResponse) :
    Repairs h (process_one_prekey_bundle (C := C) uuid d pre) := by
  unfold process_one_prekey_bundle
  apply repairs_bind (repairs_badResponseOnly (badResponseOnly_requestedEntry _ _))
  intro entry
  apply repairs_bind (repairs_badResponseOnly (badResponseOnly_decode_identity_key C _))
  intro identity_key
  apply repairs_bind (repairs_badResponseOnly (badResponseOnly_build_prekey_bundle C _ _))
  intro bundle
  split
  · exact repairs_throw nofun
  · exact repairs_bind (repairs_ask trivial) (fun _ => repairs_orFail nofun _)

theorem chat_base_url_ne (account : AccountInfo) : account.chat_base_url C ≠ .error .RetryExhausted := by
  unfold AccountInfo.chat_base_url
  cases C.url_parse ("https://chat." ++ account.host) <;> exact nofun

theorem keysUrl_ne (account : AccountInfo) (uuid device : String) :
    keysUrl (C := C) account uuid device ≠ .error .RetryExhausted := by
  unfold keysUrl
  cases hu : account.chat_base_url C with
  | ok u => exact nofun
  | error e =>
    intro he
    cases he
    exact chat_base_url_ne account hu

theorem repairs_fetchMissing (recipient : ProtocolAddress) (account : AccountInfo) (ds : List ℕ) :
    Repairs h (fetchMissing (C := C) recipient account ds) := by
  induction ds with
  | nil => exact repairs_pure ()
  | cons d ds ih =>
    unfold fetchMissing
    apply repairs_bind (repairs_ofExcept (keysUrl_ne _ _ _))
    intro url
    apply repairs_bind (repairs_ask (c := .get_json _ _) trivial)
    intro reply
    apply repairs_bind (repairs_orFail nofun _)
    intro resp
    split_ifs
    · apply repairs_bind (repairs_orFail nofun _)
      intro pre
      exact repairs_bind (repairs_process_one_prekey_bundle _ _ _) (fun _ => ih)
    · exact ih
    · exact repairs_throw nofun
    · exact repairs_throw nofun

theorem repairs_handle_mismatched_devices (recipient : ProtocolAddress) (mm : DeviceMismatchResponse)
    (account : AccountInfo) : Repairs h (handle_mismatched_devices (C := C) recipient mm account) :=
  repairs_bind (repairs_deleteListed _ _) (fun _ => repairs_fetchMissing _ _ _)

theorem repairs_establishAll (uuid : String) (excluded : Option ℕ) (k : C.IdentityKey)
    (entries : List DeviceEntry) : Repairs h (establishAll uuid excluded k entries) := by
  induction entries with
  | nil => exact repairs_pure []
  | cons entry entries ih =>
    unfold establishAll
    split_ifs
    · exact ih
    · apply repairs_bind (repairs_badResponseOnly (badResponseOnly_build_prekey_bundle C _ _))
      intro bundle
      split
      · exact repairs_throw nofun
      · apply repairs_bind (repairs_ask (c := .process_prekey_bundle _ _) trivial)
        intro processed
        apply repairs_bind (repairs_orFail nofun _)
        intro _
        exact repairs_bind ih (fun established => repairs_pure _)

theorem repairs_discover (uuid : String) (excluded : Option ℕ) (account : AccountInfo) :
    Repairs h (discover_and_establish_account_devices (C := C) uuid excluded account) := by
  unfold discover_and_establish_account_devices
  apply repairs_bind (repairs_ofExcept (keysUrl_ne _ _ _))
  intro url
  apply repairs_bind (repairs_ask (c := .get_json _ _) trivial)
  intro reply
  apply repairs_bind (repairs_orFail nofun _)
  intro resp
  split_ifs
  · apply repairs_bind (repairs_orFail nofun _)
    intro pre
    apply repairs_bind (repairs_badResponseOnly (badResponseOnly_decode_identity_key C _))
    intro identity_key
    exact repairs_establishAll _ _ _ _
  · exact repairs_throw nofun
  · exact repairs_pure []
  · exact repairs_throw nofun

end XousSignalClient
