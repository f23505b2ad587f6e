import Mathlib.Data.Finset.Sort
import XousSignalClient.Pddb.Identities
import XousSignalClient.Send.Reference

namespace XousSignalClient

namespace Reference

open Encoding Interaction

section Libsignal

def identities : IdentityFormat := ⟨Bytes, id, tagged 33 5⟩

/-- What libsignal does before it uses the key of the account at `a`: it asks the identity store, and saves the key. -/
def trusting {α : Type} (a : ProtocolAddress) (identity_key : Bytes)
    (x : PddbProgram (Except SignalProtocolError α)) : PddbProgram (Except SignalProtocolError α) := do
  match Calls.is_trusted_over identities identity_key (← pddb_read_binary IDENTITY_DICT a.key) with
  | .error e => pure (.error e)
  | .ok false => pure (.error (.Other "UntrustedIdentity"))
  | .ok true =>
    match ← pddb_write_binary IDENTITY_DICT a.key identity_key with
    | .error e => pure (.error (io_err_to_signal e "write failed"))
    | .ok () => x

def process_prekey_bundle (remote_address : ProtocolAddress) (bundle : Bundle) :
    PddbProgram (Except SignalProtocolError Unit) :=
  if bundle.Verified then
    trusting remote_address bundle.identity_key
      (PddbSessionStore.store_session crates.toSessionFormat remote_address
        ⟨UInt8.ofNat bundle.registration_id, 0, bundle.identity_key⟩)
  else pure (.error (.Other "SignatureValidationFailed"))

def encryptOver (ptext : Bytes) (remote_address : ProtocolAddress) (r : Record) :
    PddbProgram (Except SignalProtocolError CiphertextMessage) := do
  match ← PddbSessionStore.store_session crates.toSessionFormat remote_address
      ⟨r.registration, r.sent + 1, r.identity_key⟩ with
  | .error e => pure (.error e)
  | .ok () => pure (.ok (.SignalMessage (r.sent :: ptext)))

def message_encrypt (ptext : Bytes) (remote_address : ProtocolAddress) :
    PddbProgram (Except SignalProtocolError CiphertextMessage) := do
  match ← PddbSessionStore.load_session crates.toSessionFormat remote_address with
  | .error e => pure (.error e)
  | .ok none => pure (.error (.Other "SessionNotFound"))
  | .ok (some (r : Record)) => trusting remote_address r.identity_key (encryptOver ptext remote_address r)

def Trusting (uuid : String) (p : Pddb) : Prop :=
  ∀ (i : DeviceId) found, p.identity identities ⟨uuid, i⟩ = some found → found = .ok identityKey

def saved (a : ProtocolAddress) (identity_key : Bytes) (p : Pddb) : Pddb :=
  ((pddb_write_binary IDENTITY_DICT a.key identity_key).run Pddb.handler p).state

def established (a : ProtocolAddress) (r : Record) (p : Pddb) : Pddb :=
  ((PddbSessionStore.store_session crates.toSessionFormat a r).run Pddb.handler (saved a r.identity_key p)).state

theorem value_saved (a : ProtocolAddress) (identity_key : Bytes) (p : Pddb) (dict key : String) :
    (saved a identity_key p).value dict key =
      if (dict, key) = (IDENTITY_DICT, a.key) then some identity_key else p.value dict key :=
  (Pddb.run_write_binary p IDENTITY_DICT a.key identity_key).2 dict key

theorem session_saved (a b : ProtocolAddress) (identity_key : Bytes) (p : Pddb) :
    (saved a identity_key p).session b = p.session b := by
  have hdict : SESSION_DICT ≠ IDENTITY_DICT := by decide
  rw [Pddb.session, value_saved, if_neg (fun h => hdict (Prod.mk.inj h).1)]
  rfl

theorem sessionKeys_saved (a : ProtocolAddress) (identity_key : Bytes) {p : Pddb} (hp : p.SessionKeys) :
    (saved a identity_key p).SessionKeys := by
  have hdict : SESSION_DICT ≠ IDENTITY_DICT := by decide
  intro k hk
  rw [Pddb.mem_keysOf, value_saved, if_neg (fun h => hdict (Prod.mk.inj h).1)] at hk
  exact hp k (Pddb.mem_keysOf.mpr hk)

theorem Trusting.of_identities {uuid : String} {p p' : Pddb}
    (h : ∀ dict key, dict ≠ SESSION_DICT → p'.value dict key = p.value dict key) (hp : Trusting uuid p) :
    Trusting uuid p' := by
  intro i found hfound
  rw [Pddb.identity, h _ _ (by decide)] at hfound
  exact hp i found hfound

theorem Trusting.saved {uuid : String} {p : Pddb} (hp : Trusting uuid p) (a : ProtocolAddress) :
    Trusting uuid (saved a identityKey p) := by
  intro i found hfound
  rw [Pddb.identity, value_saved] at hfound
  split_ifs at hfound with hkey
  · rw [← Option.some.inj hfound]
    exact tagged_replicate 32 5 1
  · exact hp i found hfound

theorem serializes (r : Record) : crates.serialize r = .ok r.bytes := rfl

theorem deserialize_bytes (r : Record) : deserialize r.bytes = .ok r := rfl

theorem Trusting.established {uuid : String} {p : Pddb} (hp : Trusting uuid p) (a : ProtocolAddress) {r : Record}
    (hr : r.identity_key = identityKey) : Trusting uuid (established a r p) := by
  have hsaved : Trusting uuid (Reference.saved a r.identity_key p) := by
    rw [hr]
    exact hp.saved a
  refine hsaved.of_identities ?_
  intro dict key hdict
  rw [Reference.established, (Pddb.run_store_session (serializes r) a _).2, (Pddb.run_write_binary _ _ _ _).2,
    if_neg (fun h => hdict (Prod.mk.inj h).1)]

theorem run_trusting {α : Type} {a : ProtocolAddress} {identity_key : Bytes} {p : Pddb}
    (x : PddbProgram (Except SignalProtocolError α))
    (hknown : ∀ found, p.identity identities a = some found → found = .ok identity_key) :
    ((trusting a identity_key x).run Pddb.handler p).value = (x.run Pddb.handler (saved a identity_key p)).value ∧
      ((trusting a identity_key x).run Pddb.handler p).state = (x.run Pddb.handler (saved a identity_key p)).state := by
  obtain ⟨hread, hsame⟩ := Pddb.run_read p IDENTITY_DICT a.key
  have htrusted : Calls.is_trusted_over identities identity_key
      ((pddbRead IDENTITY_DICT a.key).run Pddb.handler p).value = .ok true := by
    rw [hread]
    cases hvalue : p.value IDENTITY_DICT a.key with
    | none => rfl
    | some b =>
      have hb := hknown (identities.decode b) (by rw [Pddb.identity, hvalue, Option.map_some])
      simp only [Calls.is_trusted_over, hb]
      exact congrArg Except.ok (@decide_eq_true _ (identities.decidable_eq _ _) rfl)
  have hwrite := (Pddb.run_write_binary p IDENTITY_DICT a.key identity_key).1
  unfold trusting pddb_read_binary
  rw [Program.run_bind, hsame]
  simp only [htrusted]
  rw [Program.run_bind, hwrite]
  exact ⟨rfl, rfl⟩

end Libsignal

section Server

/-- An account the server knows: its registered devices, and which registration ids are out of date. -/
structure Server where
  account : AccountInfo
  uuid : String
  own : Option ℕ
  registered : Finset ℕ
  outdated : UInt8 → Bool

variable (server : Server)

def Server.base : Url := ⟨"https://chat." ++ server.account.host, "/"⟩

def Server.stale (r : Record) : Prop := server.outdated r.registration = true

instance : DecidablePred server.stale := fun r => inferInstanceAs (Decidable (server.outdated r.registration = true))

def Server.staleAt (p : Pddb) (d : ℕ) : Bool :=
  match DeviceId.new d with
  | none => false
  | some i =>
    match (p.session ⟨server.uuid, i⟩).map deserialize with
    | some (.ok r) => server.outdated r.registration
    | _ => false

def Server.staleDevices (p : Pddb) : List ℕ := server.registered.sort.filter (server.staleAt p)

def Server.authorized (auth : String) (resp : HttpResponse) : Except String HttpResponse :=
  if auth = server.account.basic_auth crates then .ok resp else .ok ⟨401, []⟩

def Server.submitted (messages : SubmitMessagesRequest) (p : Pddb) : HttpResponse :=
  let addressed := messages.addressed server.own
  if addressed ≠ server.registered then
    ⟨409, body (mismatchText ⟨(server.registered \ addressed).sort, (addressed \ server.registered).sort, []⟩)⟩
  else if server.staleDevices p ≠ [] then ⟨410, body (mismatchText ⟨[], [], server.staleDevices p⟩)⟩
  else ⟨200, []⟩

def Server.keys (url : String) : HttpResponse :=
  match server.registered.sort.find? (fun d => url = keysUrlAt crates server.base server.uuid (toString d)) with
  | some d => ⟨200, body (responseText (accountKeys [d]))⟩
  | none =>
    if url = keysUrlAt crates server.base server.uuid "*" then
      ⟨200, body (responseText (accountKeys (server.own.toList ++ server.registered.sort)))⟩
    else ⟨404, []⟩

def Server.put (url auth : String) (messages : SubmitMessagesRequest) (p : Pddb) : Except String HttpResponse :=
  server.authorized auth
    (if url = messagesUrl crates server.base server.uuid then server.submitted messages p else ⟨404, []⟩)

def Server.get (url auth : String) : Except String HttpResponse := server.authorized auth (server.keys url)

def Server.env : SendEnv crates Unit where
  now := fun _ => (0, ())
  sleep := fun _ _ => ()
  message_encrypt := fun ptext remote_address _ w => onPddb (message_encrypt ptext remote_address) w
  process_prekey_bundle := fun remote_address bundle w => onPddb (process_prekey_bundle remote_address bundle) w
  put_json := fun url auth messages w => (server.put url auth messages w.pddb, ())
  get_json := fun url auth _ => (server.get url auth, ())

end Server

section Honesty

variable {server : Server}

theorem recordAt_iff {P : Record → Prop} {p : Pddb} {a : ProtocolAddress} :
    RecordAt crates P p a ↔ ∃ r, (p.session a).map deserialize = some (.ok r) ∧ P r := by
  constructor
  · rintro ⟨stored, r, hstored, hr, hP⟩
    refine ⟨r, ?_, hP⟩
    rw [hstored]
    exact congrArg some hr
  · rintro ⟨r, hr, hP⟩
    obtain ⟨stored, hstored, hdes⟩ := Option.map_eq_some_iff.mp hr
    exact ⟨stored, r, hstored, hdes, hP⟩

theorem staleAt_iff {p : Pddb} {i : DeviceId} :
    server.staleAt p i.val = true ↔ RecordAt crates server.stale p ⟨server.uuid, i⟩ := by
  rw [recordAt_iff, Server.staleAt, DeviceId.new_val]
  simp only [Server.stale]
  split
  · rename_i r hr
    rw [hr]
    constructor
    · intro h
      exact ⟨r, rfl, h⟩
    · rintro ⟨r', hr', h⟩
      cases hr'
      exact h
  · rename_i hr
    constructor
    · exact nofun
    · rintro ⟨r', hr', -⟩
      exact absurd hr' (hr r')

theorem mem_staleDevices {p : Pddb} {i : DeviceId} : i.val ∈ server.staleDevices p ↔
    i.val ∈ server.registered ∧ RecordAt crates server.stale p ⟨server.uuid, i⟩ := by
  rw [Server.staleDevices, List.mem_filter, Finset.mem_sort, staleAt_iff]

theorem authorized_ok (resp : HttpResponse) :
    server.authorized (server.account.basic_auth crates) resp = .ok resp := if_pos rfl

theorem env_put (url auth : String) (messages : SubmitMessagesRequest) (w : World Unit) :
    (server.env.put_json url auth messages w).1 = server.put url auth messages w.pddb := rfl

theorem env_get (url auth : String) (w : World Unit) :
    (server.env.get_json url auth w).1 = server.get url auth := rfl

theorem put_ok (messages : SubmitMessagesRequest) (p : Pddb) :
    server.put (messagesUrl crates server.base server.uuid) (server.account.basic_auth crates) messages p =
      .ok (server.submitted messages p) := by
  rw [Server.put, if_pos rfl, authorized_ok]

theorem keysUrlAt_injective {base : Url} {uuid x y : String}
    (h : keysUrlAt crates base uuid x = keysUrlAt crates base uuid y) : x = y := by
  have hx : ∀ z, keysUrlAt crates base uuid z = base.origin ++ ("/v2/keys/" ++ uuid ++ "/" ++ z) :=
    fun _ => rfl
  rw [hx, hx] at h
  have hl := congrArg String.toList h
  simp only [String.toList_append] at hl
  rw [List.append_cancel_left_eq, List.append_cancel_left_eq] at hl
  exact String.toList_inj.mp hl

theorem get_ok (url : String) :
    server.get url (server.account.basic_auth crates) = .ok (server.keys url) := authorized_ok _

theorem keys_device {d : ℕ} (hd : d ∈ server.registered) :
    server.keys (keysUrlAt crates server.base server.uuid (toString d)) =
      ⟨200, body (responseText (accountKeys [d]))⟩ := by
  have hfind : server.registered.sort.find? (fun e =>
      keysUrlAt crates server.base server.uuid (toString d) =
        keysUrlAt crates server.base server.uuid (toString e)) = some d := by
    cases hf : server.registered.sort.find? (fun e =>
        keysUrlAt crates server.base server.uuid (toString d) =
          keysUrlAt crates server.base server.uuid (toString e)) with
    | none =>
      have := List.find?_eq_none.mp hf d (Finset.mem_sort _ |>.mpr hd)
      simp at this
    | some e =>
      have heq := List.find?_some hf
      rw [decide_eq_true_eq] at heq
      rw [toString_injective (keysUrlAt_injective heq)]
  rw [Server.keys]
  simp only [hfind]

theorem star_ne_toString (d : ℕ) : toString d ≠ "*" := by
  intro h
  have hdigit := toString_digits d '*' (by rw [h]; decide)
  exact absurd hdigit (by decide)

theorem keys_account : server.keys (keysUrlAt crates server.base server.uuid "*") =
    ⟨200, body (responseText (accountKeys (server.own.toList ++ server.registered.sort)))⟩ := by
  have hfind : server.registered.sort.find? (fun e =>
      keysUrlAt crates server.base server.uuid "*" =
        keysUrlAt crates server.base server.uuid (toString e)) = none := by
    rw [List.find?_eq_none]
    intro e _ heq
    rw [decide_eq_true_eq] at heq
    exact star_ne_toString e (keysUrlAt_injective heq).symm
  rw [Server.keys]
  simp only [hfind, if_true]

theorem url_parsed : server.account.chat_base_url crates = .ok server.base := by
  have hstrip : strip_prefix ("https://chat." ++ server.account.host) "https://" =
      some ("chat." ++ server.account.host) := by
    rw [ strip_prefix_eq_some, ← String.append_assoc]
    rfl
  have hparse : crates.url_parse ("https://chat." ++ server.account.host) = .ok server.base := by
    change url_parse ("https://chat." ++ server.account.host) = _
    rw [url_parse, hstrip]
    rfl
  rw [AccountInfo.chat_base_url, hparse]
  rfl

theorem serves_device (i : DeviceId) :
    ServesBundle crates Genuine i.val (body (responseText (accountKeys [i.val]))) := by
  refine ⟨accountKeys [i.val], deviceEntry i.val, identityKey, deviceBundle i, accountKeys_body _, ?_,
    identity_decodes (tagged_replicate 32 5 1), build_deviceEntry i, genuine_deviceBundle i⟩
  simp [accountKeys, deviceEntry]

theorem server_honest (hR : ∀ d ∈ server.registered, 1 ≤ d ∧ d ≤ 127) :
    HonestServer server.env server.account server.base server.uuid server.own server.registered
      server.stale Genuine := by
  refine ⟨?_, ?_, ?_, ?_⟩
  · intro messages w hne
    refine ⟨_, ⟨(server.registered \ messages.addressed server.own).sort,
      (messages.addressed server.own \ server.registered).sort, []⟩, ?_, carries_mismatch _,
      Finset.sort_nodup _ _, Finset.sort_toFinset _ _, Finset.sort_toFinset _ _⟩
    rw [env_put, put_ok, Server.submitted, if_pos hne]
  · intro messages w heq hstale
    obtain ⟨i, hi, hrecord⟩ := hstale
    have hne : server.staleDevices w.pddb ≠ [] :=
      List.ne_nil_of_mem (mem_staleDevices.mpr ⟨hi, hrecord⟩)
    refine ⟨_, ⟨[], [], server.staleDevices w.pddb⟩, ?_, carries_mismatch _, fun i => mem_staleDevices⟩
    rw [env_put, put_ok, Server.submitted, if_neg (not_not.mpr heq), if_pos hne]
  · intro messages w heq hfresh
    have hnil : server.staleDevices w.pddb = [] := by
      rw [Server.staleDevices, List.filter_eq_nil_iff]
      intro d hd hstale
      have hdR := (Finset.mem_sort _).mp hd
      exact hfresh ⟨d, hR d hdR⟩ hdR (staleAt_iff.mp hstale)
    refine ⟨[], ?_⟩
    rw [env_put, put_ok, Server.submitted, if_neg (not_not.mpr heq), if_neg (not_not.mpr hnil)]
  · intro d hd w
    refine ⟨_, ?_, serves_device ⟨d, hR d hd⟩⟩
    rw [env_get, get_ok, keys_device hd]

theorem session_established (a : ProtocolAddress) (r : Record) (p : Pddb) :
    (established a r p).session a = some r.bytes := by
  rw [established, Pddb.session_store_session (serializes r), if_pos rfl]

theorem recordAt_established {P : Record → Prop} (a : ProtocolAddress) (r : Record) (p : Pddb) :
    RecordAt crates P (established a r p) a ↔ P r := by
  rw [recordAt_iff, session_established, Option.map_some, deserialize_bytes]
  constructor
  · rintro ⟨r', hr', h⟩
    obtain rfl : r = r' := Except.ok.inj (Option.some.inj hr')
    exact h
  · exact fun h => ⟨r, rfl, h⟩

theorem onlySession_established (a : ProtocolAddress) (r : Record) (p : Pddb) :
    OnlySession a p (established a r p) := by
  refine ⟨fun hp => Pddb.sessionKeys_store_session (serializes r) a (sessionKeys_saved a r.identity_key hp), ?_⟩
  intro b hb
  rw [established, Pddb.session_store_session (serializes r), if_neg hb, session_saved]

theorem run_encryptOver (ptext : Bytes) (a : ProtocolAddress) (r : Record) (p : Pddb) :
    ((encryptOver ptext a r).run Pddb.handler p).value = .ok (.SignalMessage (r.sent :: ptext)) ∧
      ((encryptOver ptext a r).run Pddb.handler p).state = ((PddbSessionStore.store_session crates.toSessionFormat a
        ⟨r.registration, r.sent + 1, r.identity_key⟩).run Pddb.handler p).state := by
  have hstore := (Pddb.run_store_session (serializes ⟨r.registration, r.sent + 1, r.identity_key⟩) a p).1
  unfold encryptOver
  rw [Program.run_bind, hstore]
  exact ⟨rfl, rfl⟩

theorem run_message_encrypt (ptext : Bytes) {a : ProtocolAddress} {p : Pddb} {stored : Bytes} {r : Record}
    (hstored : p.session a = some stored) (hr : deserialize stored = .ok r)
    (hknown : ∀ found, p.identity identities a = some found → found = .ok r.identity_key) :
    ((message_encrypt ptext a).run Pddb.handler p).value = .ok (.SignalMessage (r.sent :: ptext)) ∧
      ((message_encrypt ptext a).run Pddb.handler p).state =
        established a ⟨r.registration, r.sent + 1, r.identity_key⟩ p := by
  obtain ⟨hload, hsame⟩ := Pddb.run_load_session crates.toSessionFormat a p
  simp only [hstored, hr] at hload
  obtain ⟨hv, hs⟩ := run_trusting (encryptOver ptext a r) hknown
  obtain ⟨hv', hs'⟩ := run_encryptOver ptext a r (saved a r.identity_key p)
  unfold message_encrypt
  rw [Program.run_bind, hload, hsame]
  exact ⟨hv.trans hv', hs.trans hs'⟩

theorem run_process_prekey_bundle {uuid : String} {p : Pddb} (htrusts : Trusting uuid p) (i : DeviceId)
    {bundle : Bundle} (hreg : bundle.registration_id = 1) (hverified : bundle.Verified)
    (hkey : bundle.identity_key = identityKey) :
    ((process_prekey_bundle ⟨uuid, i⟩ bundle).run Pddb.handler p).value = .ok () ∧
      ((process_prekey_bundle ⟨uuid, i⟩ bundle).run Pddb.handler p).state =
        established ⟨uuid, i⟩ ⟨1, 0, identityKey⟩ p := by
  have hprogram : process_prekey_bundle ⟨uuid, i⟩ bundle = trusting ⟨uuid, i⟩ identityKey
      (PddbSessionStore.store_session crates.toSessionFormat ⟨uuid, i⟩ ⟨1, 0, identityKey⟩) := by
    rw [process_prekey_bundle, if_pos hverified, hreg, hkey]
    rfl
  obtain ⟨hv, hs⟩ := run_trusting
    (PddbSessionStore.store_session crates.toSessionFormat ⟨uuid, i⟩ ⟨1, 0, identityKey⟩) (htrusts i)
  have hstore := (Pddb.run_store_session (serializes ⟨1, 0, identityKey⟩) ⟨uuid, i⟩ (saved ⟨uuid, i⟩ identityKey p)).1
  rw [hprogram]
  exact ⟨hv.trans hstore, hs⟩

def Known (r : Record) : Prop := r.identity_key = identityKey

theorem libsignal_works (hcurrent : server.outdated 1 = false) :
    LibsignalWorks server.env server.uuid (Trusting server.uuid) (fun _ => True) Known server.stale Genuine := by
  refine ⟨fun r _ => ⟨_, rfl⟩, fun _ _ => Trusting.of_identities, ?_, ?_⟩
  · intro ptext i l w htrusts _ hrecord
    obtain ⟨stored, r, hstored, hr, hkey⟩ := hrecord
    obtain ⟨hv, hs⟩ := run_message_encrypt ptext hstored hr (hkey ▸ htrusts i)
    have hanswer : server.env.message_encrypt ptext ⟨server.uuid, i⟩ l w =
        onPddb (message_encrypt ptext ⟨server.uuid, i⟩) w := rfl
    have henc : onPddb (message_encrypt ptext ⟨server.uuid, i⟩) w =
        (.ok (.SignalMessage (r.sent :: ptext)), ⟨_, w.env⟩) :=
      Prod.ext hv (congrArg (fun p => (⟨p, w.env⟩ : World Unit)) hs)
    refine ⟨_, _, _, hanswer.trans henc, rfl, htrusts.established _ hkey, ?_, ?_, onlySession_established _ _ _⟩
    · exact (recordAt_established _ _ _).mpr hkey
    · rw [recordAt_established, recordAt_iff, hstored]
      constructor
      · exact fun h => ⟨r, congrArg some hr, h⟩
      · rintro ⟨r', hr', h⟩
        obtain rfl : r = r' := Except.ok.inj (hr.symm.trans (Option.some.inj hr'))
        exact h
  · rintro i bundle w htrusts - ⟨-, hreg, hverified, hkey⟩
    obtain ⟨hv, hs⟩ := run_process_prekey_bundle htrusts i hreg hverified hkey
    refine ⟨⟨established ⟨server.uuid, i⟩ ⟨1, 0, identityKey⟩ w.pddb, w.env⟩, ?_, htrusts.established _ rfl, ?_, ?_,
      onlySession_established _ _ _⟩
    · exact Prod.ext hv (congrArg (fun p => (⟨p, w.env⟩ : World Unit)) hs)
    · exact (recordAt_established _ _ _).mpr rfl
    · rw [recordAt_established, Server.stale, hcurrent]
      exact nofun

theorem honest {sub : Submission} (haccount : sub.account = server.account)
    (huuid : sub.recipient_uuid = server.uuid) (hown : sub.excluded_device_id = server.own)
    (hfallback : 1 ≤ sub.fallback_device_id ∧ sub.fallback_device_id ≤ 127)
    (hR : ∀ d ∈ server.registered, 1 ≤ d ∧ d ≤ 127) (hcurrent : server.outdated 1 = false) :
    Honest server.env sub server.registered (Trusting server.uuid) (fun _ => True) Known server.stale Genuine := by
  refine ⟨⟨server.base, ?_, ?_⟩, hfallback, hR, ?_⟩
  · rw [haccount]
    exact url_parsed
  · rw [haccount, huuid, hown]
    exact server_honest hR
  · rw [huuid]
    exact libsignal_works hcurrent

theorem serves_account {own : ℕ} (hown : server.own = some own)
    (hR : ∀ d ∈ server.registered, 1 ≤ d ∧ d ≤ 127) :
    ServesAccount server.env server.account server.uuid own server.registered Genuine := by
  have hunique : ∀ base, server.account.chat_base_url crates = .ok base → base = server.base := by
    intro base hbase
    exact Except.ok.inj (hbase.symm.trans url_parsed)
  refine ⟨?_, ?_⟩
  · intro base hbase w
    rw [hunique base hbase]
    refine ⟨body (responseText (accountKeys (own :: server.registered.sort))), ?_,
      accountKeys (own :: server.registered.sort), identityKey, accountKeys_body _,
      identity_decodes (tagged_replicate 32 5 1), ?_, ?_⟩
    · rw [env_get, get_ok, keys_account, hown]
      rfl
    · ext d
      simp [accountKeys, deviceEntry]
    · intro entry hentry hne
      obtain ⟨d, hd, rfl⟩ := List.mem_map.mp hentry
      rcases List.mem_cons.mp hd with rfl | hd
      · exact absurd rfl hne
      · have hvalid := hR d ((Finset.mem_sort _).mp hd)
        exact ⟨_, build_deviceEntry ⟨d, hvalid⟩, genuine_deviceBundle ⟨d, hvalid⟩⟩
  · intro base hbase d h
    exact star_ne_toString d (keysUrlAt_injective h)

theorem withinBudget (server : Server) {α : Type} (x : SendM crates α) (w : World Unit) :
    WithinBudget (Fallible.exec server.env.handler x w).events := by
  have hzero : ∀ t ∈ clocks (Fallible.exec server.env.handler x w).events, t = 0 := by
    intro t ht
    obtain ⟨⟨before, call, reply⟩, he, hreading⟩ := List.mem_filterMap.mp ht
    have hreply := Program.events_answered server.env.handler x.run w _ he
    cases call with
    | now =>
      obtain rfl : reply = t := Option.some.inj hreading
      exact hreply
    | _ => cases hreading
  intro t ht t' ht'
  rw [hzero t ht, hzero t' ht']
  exact Nat.zero_le _

theorem inTime (server : Server) {α : Type} (x : SendM crates α) (w : World Unit) :
    InTime (fun _ => True) (Fallible.exec server.env.handler x w).events :=
  ⟨withinBudget server x w, fun _ _ => trivial⟩

def session (r : UInt8 × UInt8) : Record := ⟨r.1, r.2, identityKey⟩

theorem known_session (r : UInt8 × UInt8) : Known (session r) := rfl

def stock (uuid : String) : List (DeviceId × (UInt8 × UInt8)) → Pddb
  | [] => ∅
  | (i, r) :: records => established ⟨uuid, i⟩ (session r) (stock uuid records)

def devices (records : List (DeviceId × (UInt8 × UInt8))) : Finset ℕ := (records.map (·.1.val)).toFinset

theorem sessions_stock (stale : Record → Prop) [DecidablePred stale] (uuid : String)
    (records : List (DeviceId × (UInt8 × UInt8))) (hnodup : (records.map (·.1.val)).Nodup) :
    Sessions crates (Trusting uuid) Known stale (stock uuid records) uuid (devices records)
      (devices (records.filter (fun x => stale (session x.2)))) := by
  induction records with
  | nil =>
    have hnone : ∀ a, Pddb.session ∅ a = none := fun _ => Pddb.value_empty _ _
    refine ⟨?_, ?_, ?_, ?_, ?_, ?_, ?_⟩
    · intro i found hfound
      rw [Pddb.identity, stock, Pddb.value_empty] at hfound
      cases hfound
    · intro k hk
      rw [Pddb.mem_keysOf, stock, Pddb.value_empty] at hk
      cases hk
    · simp [devices]
    · intro i
      simp [stock, hnone, devices]
    · simp [devices]
    · intro i
      simp [stock, RecordAt, hnone, devices]
    · simp [devices]
  | cons x records ih =>
    obtain ⟨i, r⟩ := x
    rw [List.map_cons, List.nodup_cons] at hnodup
    have hnew : i.val ∉ devices records := by simpa [devices] using hnodup.1
    have hnew' : i.val ∉ devices (records.filter (fun x => stale (session x.2))) := by
      intro h
      apply hnew
      simp only [devices, List.mem_toFinset, List.mem_map, List.mem_filter] at h ⊢
      obtain ⟨x, ⟨hx, -⟩, hi⟩ := h
      exact ⟨x, hx, hi⟩
    have hkeep : devices ((i, r) :: records) = insert i.val (devices records) := by simp [devices]
    have honly := onlySession_established ⟨uuid, i⟩ (session r) (stock uuid records)
    have htrusts := (ih hnodup.2).trusted.established ⟨uuid, i⟩ (r := session r) rfl
    refine (ih hnodup.2).update i htrusts (honly.1 (ih hnodup.2).keys) honly.2 ?_ ?_ ?_ ?_ ?_ ?_
    · intro d hd
      simp [hkeep, hd]
    · intro d hd
      by_cases hr : stale (session r) <;> simp [devices, hr, hd]
    · rw [hkeep]
      exact ⟨fun _ => Finset.mem_insert_self _ _,
        fun _ => ((recordAt_established _ _ _).mpr (known_session r)).isSome⟩
    · exact fun _ => (recordAt_established _ _ _).mpr (known_session r)
    · refine (recordAt_established _ _ _).trans ?_
      by_cases hr : stale (session r)
      · simp [devices, hr]
      · simpa [hr] using hnew'
    · intro _
      rw [hkeep]
      exact Finset.mem_insert_self _ _

theorem sessions_stock_fresh (uuid : String) (records : List (DeviceId × (UInt8 × UInt8)))
    (hnodup : (records.map (·.1.val)).Nodup) :
    Sessions crates (Trusting uuid) Known (fun _ => False) (stock uuid records) uuid (devices records) ∅ := by
  have hs := sessions_stock (fun _ => False) uuid records hnodup
  have hnone : devices (records.filter (fun _ => decide False)) = ∅ := by simp [devices]
  rwa [hnone] at hs

end Honesty

end Reference

end XousSignalClient
