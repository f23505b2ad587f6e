import Mathlib.Data.Finset.Card
import Mathlib.Data.Finset.SDiff
import XousSignalClient.Send.FanOut
import XousSignalClient.Send.Outcome

namespace XousSignalClient

open Encoding Interaction Fallible

variable {C : Crates} {ω : Type}

def RecordAt (C : Crates) (P : C.SessionRecord → Prop) (p : Pddb) (a : ProtocolAddress) : Prop :=
  ∃ stored record, p.session a = some stored ∧ C.deserialize stored = .ok record ∧ P record

def OnlySession (a : ProtocolAddress) (p p' : Pddb) : Prop :=
  (p.SessionKeys → p'.SessionKeys) ∧ ∀ b, b ≠ a → p'.session b = p.session b

/-- What is documented of libsignal. It works while the identity store trusts the account's key (`trusts`) and
no session is too old (`timely`): a usable session encrypts and stays usable (and as stale as it was), a genuine
bundle gives a fresh usable session in the place of none or of a usable one. -/
structure LibsignalWorks (env : SendEnv C ω) (uuid : String) (trusts : Pddb → Prop) (timely : World ω → Prop)
    (usable stale : C.SessionRecord → Prop) (genuine : ℕ → C.PreKeyBundle → Prop) : Prop where
  registration : ∀ record, usable record → ∃ reg, C.remote_registration_id record = .ok reg
  identities : ∀ p p' : Pddb, (∀ dict key, dict ≠ SESSION_DICT → p'.value dict key = p.value dict key) →
    trusts p → trusts p'
  encrypts : ∀ (ptext : Bytes) (i : DeviceId) (l : ProtocolAddress) (w : World ω), trusts w.pddb → timely w →
    RecordAt C usable w.pddb ⟨uuid, i⟩ → ∃ ct payload w',
      env.message_encrypt ptext ⟨uuid, i⟩ l w = (.ok ct, w') ∧ ciphertext_payload ct = .ok payload ∧
      trusts w'.pddb ∧ RecordAt C usable w'.pddb ⟨uuid, i⟩ ∧
      (RecordAt C stale w'.pddb ⟨uuid, i⟩ ↔ RecordAt C stale w.pddb ⟨uuid, i⟩) ∧
      OnlySession ⟨uuid, i⟩ w.pddb w'.pddb
  processes : ∀ (i : DeviceId) (bundle : C.PreKeyBundle) (w : World ω), trusts w.pddb →
    (w.pddb.session ⟨uuid, i⟩ = none ∨ RecordAt C usable w.pddb ⟨uuid, i⟩) → genuine i.val bundle →
    ∃ w', env.process_prekey_bundle ⟨uuid, i⟩ bundle w = (.ok (), w') ∧ trusts w'.pddb ∧
      RecordAt C usable w'.pddb ⟨uuid, i⟩ ∧ ¬RecordAt C stale w'.pddb ⟨uuid, i⟩ ∧
      OnlySession ⟨uuid, i⟩ w.pddb w'.pddb

def Carries (C : Crates) (body : Bytes) (mm : DeviceMismatchResponse) : Prop :=
  (from_utf8 body).isSome ∧ C.mismatch_from_slice body = .ok mm

def ServesBundle (C : Crates) (genuine : ℕ → C.PreKeyBundle → Prop) (d : ℕ) (body : Bytes) : Prop :=
  ∃ pre entry k bundle, C.prekey_response_from_slice body = .ok pre ∧
    pre.devices.find? (fun x => x.device_id = d) = some entry ∧
    decode_identity_key C pre.identity_key = .ok k ∧ build_prekey_bundle C entry k = .ok bundle ∧
    genuine d bundle

def messagesUrl (C : Crates) (base : C.Url) (uuid : String) : String :=
  C.as_str (C.set_path base ("/v1/messages/" ++ uuid))

def keysUrlAt (C : Crates) (base : C.Url) (uuid device : String) : String :=
  C.as_str (C.set_path base ("/v2/keys/" ++ uuid ++ "/" ++ device))

def SubmitMessagesRequest.addressed (body : SubmitMessagesRequest) (own : Option ℕ) : Finset ℕ :=
  body.destinations.toFinset.filter (fun d => some d ≠ own)

/-- A server that holds the registered devices `R`: it compares the addressed set with `R`, then
reports the addressed devices whose session is stale, then accepts. -/
structure HonestServer (env : SendEnv C ω) (account : AccountInfo) (base : C.Url) (uuid : String)
    (own : Option ℕ) (R : Finset ℕ) (stale : C.SessionRecord → Prop)
    (genuine : ℕ → C.PreKeyBundle → Prop) : Prop where
  mismatched : ∀ body w, body.addressed own ≠ R → ∃ b mm,
    (env.put_json (messagesUrl C base uuid) (account.basic_auth C) body w).1 = .ok ⟨409, b⟩ ∧
      Carries C b mm ∧ mm.missing_devices.Nodup ∧
      mm.missing_devices.toFinset = R \ body.addressed own ∧
      mm.extra_devices.toFinset = body.addressed own \ R
  stale_found : ∀ body w, body.addressed own = R →
    (∃ i : DeviceId, i.val ∈ R ∧ RecordAt C stale w.pddb ⟨uuid, i⟩) → ∃ b mm,
    (env.put_json (messagesUrl C base uuid) (account.basic_auth C) body w).1 = .ok ⟨410, b⟩ ∧
      Carries C b mm ∧ ∀ i : DeviceId, i.val ∈ mm.stale_devices ↔
        i.val ∈ R ∧ RecordAt C stale w.pddb ⟨uuid, i⟩
  accepted : ∀ body w, body.addressed own = R →
    (∀ i : DeviceId, i.val ∈ R → ¬RecordAt C stale w.pddb ⟨uuid, i⟩) → ∃ b,
    (env.put_json (messagesUrl C base uuid) (account.basic_auth C) body w).1 = .ok ⟨200, b⟩
  bundles : ∀ d ∈ R, ∀ w, ∃ b,
    (env.get_json (keysUrlAt C base uuid (toString d)) (account.basic_auth C) w).1 = .ok ⟨200, b⟩ ∧
      ServesBundle C genuine d b

def ListsAccount (C : Crates) (genuine : ℕ → C.PreKeyBundle → Prop) (own : ℕ) (R : Finset ℕ)
    (body : Bytes) : Prop :=
  ∃ pre k, C.prekey_response_from_slice body = .ok pre ∧ decode_identity_key C pre.identity_key = .ok k ∧
    (pre.devices.map DeviceEntry.device_id).toFinset = insert own R ∧
    ∀ entry ∈ pre.devices, entry.device_id ≠ own →
      ∃ bundle, build_prekey_bundle C entry k = .ok bundle ∧ genuine entry.device_id bundle

structure ServesAccount (env : SendEnv C ω) (account : AccountInfo) (own_uuid : String) (own : ℕ)
    (R : Finset ℕ) (genuine : ℕ → C.PreKeyBundle → Prop) : Prop where
  listed : ∀ base, account.chat_base_url C = .ok base → ∀ w, ∃ b,
    (env.get_json (keysUrlAt C base own_uuid "*") (account.basic_auth C) w).1 = .ok ⟨200, b⟩ ∧
      ListsAccount C genuine own R b
  distinct : ∀ base, account.chat_base_url C = .ok base → ∀ d : ℕ,
    keysUrlAt C base own_uuid (toString d) ≠ keysUrlAt C base own_uuid "*"

def WithinBudget {σ : Type} (es : List (SendEvent C σ)) : Prop :=
  ∀ t ∈ clocks es, ∀ t' ∈ clocks es, t' - t ≤ RETRY_BUDGET

/-- The clock stays within the budget, and no session grows too old. -/
structure InTime (timely : World ω → Prop) (es : List (SendEvent C (World ω))) : Prop where
  budget : WithinBudget es
  young : ∀ e ∈ es, timely e.before

/-- The account `uuid` has usable sessions for exactly `K`, those in `S` being stale, and its key is trusted. -/
structure Sessions (C : Crates) (trusts : Pddb → Prop) (usable stale : C.SessionRecord → Prop) (p : Pddb)
    (uuid : String) (K S : Finset ℕ) : Prop where
  trusted : trusts p
  keys : p.SessionKeys
  ids : ∀ d ∈ K, 1 ≤ d ∧ d ≤ 127
  isSome_iff : ∀ i : DeviceId, (p.session ⟨uuid, i⟩).isSome ↔ i.val ∈ K
  usable_at : ∀ i : DeviceId, i.val ∈ K → RecordAt C usable p ⟨uuid, i⟩
  stale_iff : ∀ i : DeviceId, RecordAt C stale p ⟨uuid, i⟩ ↔ i.val ∈ S
  stale_sub : S ⊆ K

section Transitions

variable {trusts : Pddb → Prop} {usable stale : C.SessionRecord → Prop} {p p' : Pddb} {uuid : String}
  {K S : Finset ℕ}

theorem RecordAt.isSome {P : C.SessionRecord → Prop} {a : ProtocolAddress} (h : RecordAt C P p a) :
    (p.session a).isSome := by
  obtain ⟨stored, record, hs, -⟩ := h
  rw [hs]
  rfl

theorem recordAt_congr {P : C.SessionRecord → Prop} {a : ProtocolAddress}
    (h : p'.session a = p.session a) : RecordAt C P p' a ↔ RecordAt C P p a := by
  unfold RecordAt
  rw [h]

theorem address_ne {i j : DeviceId} (h : j.val ≠ i.val) :
    (⟨uuid, j⟩ : ProtocolAddress) ≠ ⟨uuid, i⟩ :=
  fun he => h (congrArg (fun a => a.device_id.val) he)

theorem Sessions.mem_sessionDevices (hs : Sessions C trusts usable stale p uuid K S) {d : ℕ} :
    d ∈ p.sessionDevices uuid ↔ d ∈ K := by
  rw [Pddb.mem_sessionDevices hs.keys]
  constructor
  · rintro ⟨i, rfl, hi⟩
    exact (hs.isSome_iff i).mp hi
  · intro hd
    exact ⟨⟨d, hs.ids d hd⟩, rfl, (hs.isSome_iff _).mpr hd⟩

theorem Sessions.update (hs : Sessions C trusts usable stale p uuid K S) (i : DeviceId) {K' S' : Finset ℕ}
    (htrusts : trusts p') (hkeys : p'.SessionKeys) (hother : ∀ b, b ≠ ⟨uuid, i⟩ → p'.session b = p.session b)
    (hK : ∀ d, d ≠ i.val → (d ∈ K' ↔ d ∈ K)) (hS : ∀ d, d ≠ i.val → (d ∈ S' ↔ d ∈ S))
    (hsome : (p'.session ⟨uuid, i⟩).isSome ↔ i.val ∈ K')
    (husable : i.val ∈ K' → RecordAt C usable p' ⟨uuid, i⟩)
    (hstale : RecordAt C stale p' ⟨uuid, i⟩ ↔ i.val ∈ S') (hsub : i.val ∈ S' → i.val ∈ K') :
    Sessions C trusts usable stale p' uuid K' S' := by
  have hsame : ∀ j : DeviceId, j.val ≠ i.val → p'.session ⟨uuid, j⟩ = p.session ⟨uuid, j⟩ :=
    fun j hj => hother _ (address_ne hj)
  refine ⟨htrusts, hkeys, ?_, ?_, ?_, ?_, ?_⟩
  · intro d hd
    by_cases hdi : d = i.val
    · rw [hdi]
      exact i.valid
    · exact hs.ids d ((hK d hdi).mp hd)
  · intro j
    by_cases hj : j.val = i.val
    · rw [DeviceId.ext_val hj]
      exact hsome
    · rw [hsame j hj, hs.isSome_iff j, hK _ hj]
  · intro j hmem
    by_cases hj : j.val = i.val
    · rw [DeviceId.ext_val hj] at hmem ⊢
      exact husable hmem
    · exact (recordAt_congr (hsame j hj)).mpr (hs.usable_at j ((hK _ hj).mp hmem))
  · intro j
    by_cases hj : j.val = i.val
    · rw [DeviceId.ext_val hj]
      exact hstale
    · rw [recordAt_congr (hsame j hj), hs.stale_iff j, hS _ hj]
  · intro d hd
    by_cases hdi : d = i.val
    · rw [hdi] at hd ⊢
      exact hsub hd
    · exact (hK d hdi).mpr (hs.stale_sub ((hS d hdi).mp hd))

theorem Sessions.encrypted (hs : Sessions C trusts usable stale p uuid K S) {i : DeviceId} (hi : i.val ∈ K)
    (htrusts : trusts p') (husable : RecordAt C usable p' ⟨uuid, i⟩)
    (hstale : RecordAt C stale p' ⟨uuid, i⟩ ↔ RecordAt C stale p ⟨uuid, i⟩)
    (honly : OnlySession ⟨uuid, i⟩ p p') : Sessions C trusts usable stale p' uuid K S :=
  hs.update i htrusts (honly.1 hs.keys) honly.2 (fun _ _ => Iff.rfl) (fun _ _ => Iff.rfl)
    ⟨fun _ => hi, fun _ => husable.isSome⟩ (fun _ => husable) (hstale.trans (hs.stale_iff i))
    (fun _ => hi)

theorem Sessions.deleted (hs : Sessions C trusts usable stale p uuid K S) {i : DeviceId}
    (htrusts : trusts p') (hkeys : p'.SessionKeys)
    (hsession : ∀ b, p'.session b = if b = ⟨uuid, i⟩ then none else p.session b) :
    Sessions C trusts usable stale p' uuid (K.erase i.val) (S.erase i.val) := by
  have hgone : p'.session ⟨uuid, i⟩ = none := by rw [hsession, if_pos rfl]
  have hnot : ∀ P : C.SessionRecord → Prop, ¬RecordAt C P p' ⟨uuid, i⟩ := by
    intro P h
    have hsome := h.isSome
    rw [hgone] at hsome
    cases hsome
  refine hs.update i htrusts hkeys ?_ ?_ ?_ ?_ ?_ ?_ ?_
  · intro b hb
    rw [hsession, if_neg hb]
  · exact fun d hd => (by simp [hd])
  · exact fun d hd => (by simp [hd])
  · rw [hgone]
    simp
  · exact fun h => absurd h (Finset.notMem_erase _ _)
  · exact ⟨fun h => absurd h (hnot _), fun h => absurd h (Finset.notMem_erase _ _)⟩
  · exact fun h => absurd h (Finset.notMem_erase _ _)

theorem Sessions.clean (hs : Sessions C trusts usable stale p uuid K S) (i : DeviceId) :
    p.session ⟨uuid, i⟩ = none ∨ RecordAt C usable p ⟨uuid, i⟩ := by
  by_cases hi : i.val ∈ K
  · exact .inr (hs.usable_at i hi)
  · left
    rw [← Option.not_isSome_iff_eq_none, hs.isSome_iff]
    exact hi

theorem Sessions.established (hs : Sessions C trusts usable stale p uuid K S) {i : DeviceId}
    (htrusts : trusts p') (husable : RecordAt C usable p' ⟨uuid, i⟩) (hfresh : ¬RecordAt C stale p' ⟨uuid, i⟩)
    (honly : OnlySession ⟨uuid, i⟩ p p') :
    Sessions C trusts usable stale p' uuid (insert i.val K) (S.erase i.val) := by
  refine hs.update i htrusts (honly.1 hs.keys) honly.2 ?_ ?_ ?_ ?_ ?_ ?_
  · exact fun d hd => (by simp [hd])
  · exact fun d hd => (by simp [hd])
  · exact ⟨fun _ => Finset.mem_insert_self _ _, fun _ => husable.isSome⟩
  · exact fun _ => husable
  · exact ⟨fun h => absurd h hfresh, fun h => absurd h (Finset.notMem_erase _ _)⟩
  · exact fun _ => Finset.mem_insert_self _ _

end Transitions

end XousSignalClient
