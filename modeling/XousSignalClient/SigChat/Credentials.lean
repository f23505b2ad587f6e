import XousSignalClient.Account.Fresh
import XousSignalClient.Account.Interrupted
import XousSignalClient.Encoding.BasicAuth
import XousSignalClient.Interaction.Yields
import XousSignalClient.MainWs.Reconnect
import XousSignalClient.MainWs.SignalWs
import XousSignalClient.Prekeys.Stock
import XousSignalClient.Send.Status
import XousSignalClient.SigChat.Linking

namespace XousSignalClient

open Encoding Interaction Fallible

section Readers

def parseUnsignedError (bound : ℕ) (s : String) : String :=
  let digits := match s.toList with
    | '+' :: rest => rest
    | cs => cs
  if s.isEmpty then "cannot parse integer from empty string"
  else if bound ≤ Nat.ofDigitChars 10 (digits.takeWhile Char.isDigit) 0 then
    "number too large to fit in target type"
  else "invalid digit found in string"

def orMissing {ε : Type} (missing : ε) (read : PddbProgram (Option String)) : Fallible pddbSignature ε String := do
  let value : Option String ← ExceptT.lift read
  Fallible.ofExcept (value.elim (.error missing) .ok)

def parseDeviceId {ε : Type} (failed : String → ε) (dev_str : String) : Except ε ℕ :=
  match parseUnsigned (2 ^ 32) dev_str with
  | some device_id => .ok device_id
  | none => .error (failed ("device_id parse: " ++ parseUnsignedError (2 ^ 32) dev_str))

def AccountInfo.read_from_pddb : Fallible pddbSignature SendError AccountInfo := do
  let aci ← orMissing (.Account "aci.service_id missing") (pddb_get_string ACCOUNT_DICT ACI_SERVICE_ID_KEY)
  let dev_str ← orMissing (.Account "device_id missing") (pddb_get_string ACCOUNT_DICT DEVICE_ID_KEY)
  let device_id ← Fallible.ofExcept (parseDeviceId SendError.Account (trim dev_str))
  let password ← orMissing (.Account "password missing") (pddb_get_string ACCOUNT_DICT PASSWORD_KEY)
  let host ← orMissing (.Account "host missing") (pddb_get_string ACCOUNT_DICT HOST_KEY)
  pure ⟨aci, device_id, trim password, trim host⟩

def local_protocol_address : Fallible pddbSignature OutgoingError ProtocolAddress := do
  let aci ← orMissing (.NoLocalAccount "aci.service_id missing") (pddb_get_string ACCOUNT_DICT ACI_SERVICE_ID_KEY)
  let dev_str ← orMissing (.NoLocalAccount "device_id missing") (pddb_get_string ACCOUNT_DICT DEVICE_ID_KEY)
  let dev_id ← Fallible.ofExcept (parseDeviceId OutgoingError.NoLocalAccount dev_str)
  Fallible.ofExcept (match DeviceId.new dev_id with
    | some dev => .ok ⟨aci, dev⟩
    | none => .error (.BadDeviceId dev_id))

def read_account_string (dict key : String) : PddbProgram (Option String) := AccountDict.get dict key

structure IdentityCrates (L : LinkCrates) where
  IdentityKey : Type
  identity_key_decode : Bytes → Except SignalProtocolError IdentityKey
  decode_error : String → String

def notFound (text : String) : SignalProtocolError := .InvalidState "pddb" text

def decodeKey {L : LinkCrates} (I : IdentityCrates L) (label b64 : String) : Except SignalProtocolError Bytes :=
  (L.b64_url_decode b64).elim (.error (notFound (label ++ " base64: " ++ I.decode_error b64))) .ok

def PddbIdentityStore.get_identity_key_pair {L : LinkCrates} (I : IdentityCrates L) :
    Fallible pddbSignature SignalProtocolError (I.IdentityKey × L.PrivateKey) := do
  let priv_b64 ← orMissing (notFound "aci identity key not found")
    (read_account_string ACCOUNT_DICT ACI_IDENTITY_PRIVATE_KEY)
  let pub_b64 ← orMissing (notFound "aci identity key not found")
    (read_account_string ACCOUNT_DICT ACI_IDENTITY_PUBLIC_KEY)
  let priv_bytes ← Fallible.ofExcept (decodeKey I "priv" (trim priv_b64))
  let pub_bytes ← Fallible.ofExcept (decodeKey I "pub" (trim pub_b64))
  let private_key ← Fallible.ofExcept (L.private_key_deserialize priv_bytes)
  let identity_key ← Fallible.ofExcept (I.identity_key_decode pub_bytes)
  pure (identity_key, private_key)

def PddbIdentityStore.get_local_registration_id : PddbProgram (Except SignalProtocolError ℕ) := do
  let stored ← read_account_string ACCOUNT_DICT REGISTRATION_ID_KEY
  pure ((stored.bind (fun s => parseUnsigned (2 ^ 32) (trim s))).elim
    (.error (notFound "registration_id not found")) .ok)

end Readers

section Receiving

def ServiceEnvironment.chat_host (service_environment : ServiceEnvironment) (host : String) : String :=
  match service_environment with
  | .Live => "chat." ++ host
  | .Staging => "chat.staging." ++ host

def Account.chat_host {U : HostCrate} (account : Account U) : String :=
  account.service_environment.chat_host (U.host_to_string account.host)

variable {L : LinkCrates}

inductive StartCall (L : LinkCrates) where
  | spawn_replenish (base_url : L.Url) (aci : String) (device_id : ℕ) (password : String)
  | spawn_main_ws (credentials : MainWs.Credentials)

def StartCall.Reply : StartCall L → Type
  | .spawn_replenish _ _ _ _ => Except Error Unit
  | .spawn_main_ws _ => Except Error Unit

def startSignature (L : LinkCrates) : Signature := ⟨StartCall L, StartCall.Reply⟩

abbrev StartM (L : LinkCrates) (α : Type) := Fallible (startSignature L) Error α

def StartCall.ask (c : StartCall L) : StartM L c.Reply := Fallible.call (S := startSignature L) c

def orElseFail {α : Type} (text : String) (v : Option α) : StartM L α :=
  Fallible.ofExcept (v.elim (.error ⟨.Other, text⟩) .ok)

def startReplenish (url : Option L.Url) (aci : String) (device_id : ℕ) (password : String) : StartM L Unit :=
  match url with
  | some url => do
    let _spawned : Except Error Unit ← (StartCall.spawn_replenish url aci device_id password).ask
    pure ()
  | none => pure ()

/-- `Manager::start_receive`. -/
def Account.start_receive (account : Account L.toHostCrate) : StartM L Unit := do
  let aci ← orElseFail "account has no ACI service_id" account.aci_service_id
  let password ← orElseFail "account has no password" account.password
  let host := account.chat_host
  startReplenish (L.url_parse ("https://" ++ host)) aci account.device_id password
  let spawned : Except Error Unit ← (StartCall.spawn_main_ws ⟨aci, account.device_id, password, host⟩).ask
  Fallible.ofExcept (spawned.mapError (fun e => ⟨.Other, "start_receive: " ++ e.text⟩))

end Receiving

section Values

def Reads {ε α : Type} (x : Fallible pddbSignature ε α) (p : Pddb) (r : Except ε α) : Prop :=
  (x.exec Pddb.handler p).value = r ∧ (x.exec Pddb.handler p).state = p

variable {ε α β : Type} {p : Pddb}

end Values

section Registration

variable {L : LinkCrates} {σ : Type} {h : Handler (linkSignature L) σ}

def Accepts (password : String) (response : LinkDeviceResponse) (body : LinkDeviceRequestBody)
    (e : Event (linkSignature L) σ) : Prop :=
  ∃ d url identifier, e = ⟨d, .try_put url (basic_auth_header identifier password) body, .ok response⟩

theorem yields_try_put_accepts (url identifier password : String) (body : LinkDeviceRequestBody) :
    Yields h (linkCall (.try_put url (basic_auth_header identifier password) body)) (fun answer es => ∀ response,
      (answer : Except Error LinkDeviceResponse) = .ok response → ∃ e ∈ es, Accepts password response body e) := by
  intro s
  apply ensures_call (S := linkSignature L)
  intro answer hanswer response hresponse
  refine ⟨_, List.mem_singleton_self _, s, url, identifier, ?_⟩
  rw [Except.ok.inj hanswer]
  exact congrArg (fun r => (⟨s, .try_put url (basic_auth_header identifier password) body, r⟩ :
    Event (linkSignature L) σ)) hresponse

theorem yields_put_devices_link_accepts (base_url : L.Url) (phone_number password : String)
    (body : LinkDeviceRequestBody) :
    Yields h (put_devices_link base_url phone_number password body)
      (fun response es => ∃ e ∈ es, Accepts password response body e) := by
  refine yields_bind (yields_try_put_accepts _ _ _ body) ?_
  intro answer es hanswer
  cases answer with
  | ok response =>
    apply yields_pure
    rw [List.append_nil]
    exact hanswer response rfl
  | error e =>
    by_cases he : e.kind = .PermissionDenied
    · simp only [if_pos he]
      refine yields_bind (yields_try_put_accepts _ _ _ body) ?_
      intro retried es' hretried
      cases retried with
      | ok response =>
        apply yields_pure
        rw [List.append_nil]
        exact grows_mem es es' (hretried response rfl)
      | error e' => exact yields_throw
    · simp only [if_neg he]
      exact yields_throw

def ReadsAs (L : LinkCrates) (b64 : String) (key : L.PrivateKey) : Prop :=
  ∃ bytes, L.b64_url_decode b64 = some bytes ∧ L.private_key_deserialize bytes = .ok key

def Signs (key pni_key : L.PrivateKey) (generated : Prekeys L) (e : Event (linkSignature L) σ) : Prop :=
  ∃ d, e = ⟨d, .generate_prekeys key pni_key, .ok generated⟩

/-- What a link's request comes to: what the server was told, under which identity key, and what it answered. -/
structure Registers (msg : ProvisionMessage) (linked : Account.Linked L) (key : L.PrivateKey)
    (es : List (Event (linkSignature L) σ)) : Prop where
  password : ∃ bytes, bytes.length = 18 ∧ linked.password = base64Encode bytes
  registration_id : 1 ≤ linked.registration_id ∧ linked.registration_id ≤ 16380
  aci_key : ReadsAs L msg.aci.djb_private_key key
  signed : ∃ pni_key, ReadsAs L msg.pni.djb_private_key pni_key ∧ ∃ e ∈ es, Signs key pni_key linked.generated e
  accepted : ∃ body, (∃ e ∈ es, Accepts linked.password linked.response body e) ∧
    body.account_attributes.registration_id = linked.registration_id ∧
    body = .from_parts body.verification_code body.account_attributes linked.generated

theorem Registers.mono {msg : ProvisionMessage} {linked : Account.Linked L} {key : L.PrivateKey}
    {es es' : List (Event (linkSignature L) σ)} (hregisters : Registers msg linked key es) (hsub : es ⊆ es') :
    Registers msg linked key es' := by
  obtain ⟨hpassword, hid, hkey, ⟨pni_key, hpni, e, he, hsigns⟩, body, ⟨e', he', haccepts⟩, hbody⟩ := hregisters
  exact ⟨hpassword, hid, hkey, ⟨pni_key, hpni, e, hsub he, hsigns⟩, body, ⟨e', hsub he', haccepts⟩, hbody⟩

theorem yields_propagate {α : Type} (r : Except Error α) :
    Yields h (propagate r : LinkM L α) (fun a _ => r = .ok a) := by
  intro s a ha
  cases r with
  | error e => cases ha
  | ok b => rw [Except.ok.inj ha]

end Registration

section Linked

variable {L : LinkCrates}

theorem keys_nodup (U : HostCrate) : ((Account.mirrors U).map Prod.fst).Nodup := by
  change [ACI_IDENTITY_PRIVATE_KEY, ACI_IDENTITY_PUBLIC_KEY, ACI_SERVICE_ID_KEY, DEVICE_ID_KEY,
    ENCRYPTED_DEVICE_NAME_KEY, IS_MULTI_DEVICE_KEY, NUMBER_KEY, PASSWORD_KEY, PIN_MASTER_KEY_KEY,
    PNI_IDENTITY_PRIVATE_KEY, PNI_IDENTITY_PUBLIC_KEY, PNI_SERVICE_ID_KEY, PROFILE_KEY_KEY, REGISTERED_KEY,
    SERVICE_ENVIRONMENT_KEY, STORAGE_KEY_KEY, ACCOUNT_ENTROPY_POOL_KEY, REGISTRATION_ID_KEY, PNI_REGISTRATION_ID_KEY,
    STORE_LAST_RECEIVE_TIMESTAMP_KEY, STORE_MANIFEST_VERSION_KEY, STORE_MANIFEST_KEY].Nodup
  decide

theorem lookup_of_mem {β : Type} {entries : List (String × β)} (hnodup : (entries.map Prod.fst).Nodup) {key : String}
    {b : β} (h : (key, b) ∈ entries) : entries.lookup key = some b := by
  induction entries with
  | nil => cases h
  | cons entry entries ih =>
    obtain ⟨k, b'⟩ := entry
    obtain ⟨hfresh, hrest⟩ := List.nodup_cons.mp hnodup
    rw [List.lookup_cons]
    rcases List.mem_cons.mp h with heq | hmem
    · obtain ⟨rfl, rfl⟩ := Prod.mk.inj heq
      rw [beq_self_eq_true]
    · have hne : key ≠ k := by
        rintro rfl
        exact hfresh (List.mem_map.mpr ⟨(key, b), hmem, rfl⟩)
      rw [beq_false_of_ne hne]
      exact ih hrest hmem

theorem assigned_mirror {U : HostCrate} {i : ℕ} {key : String} {mirror : Account.Mirror U}
    (h : (Account.mirrors U)[i]? = some (key, mirror)) (account : Account U) (value : Option String) :
    assigned account key value = (mirror account value).toOption := by
  rw [assigned, lookup_of_mem (keys_nodup U) (List.mem_of_getElem? h), Option.bind_some]

theorem assigned_device_id (account : Account L.toHostCrate) (response : LinkDeviceResponse) :
    assigned account DEVICE_ID_KEY (some (toString response.device_id)) =
      some { account with device_id := response.device_id } := by
  have hparsed : (some (toString response.device_id)).bind (parseUnsigned (2 ^ 32)) = some response.device_id :=
    parseUnsigned_toString response.fits
  rw [assigned_mirror (i := 3) rfl, Account.Mirror.parsed, hparsed]
  rfl

theorem assignedAll_cons {U : HostCrate} {account account' : Account U} {key : String} {value : Option String}
    (h : assigned account key value = some account') (rest : List (String × Option String)) :
    assignedAll account ((key, value) :: rest) = assignedAll account' rest := by
  rw [assignedAll, h, Option.bind_some]

def Account.linked {U : HostCrate} (account : Account U) (msg : ProvisionMessage) {L : LinkCrates}
    (linked : Account.Linked L) : Account U := { account with
  password := some linked.password
  device_id := linked.response.device_id
  aci_identity_private := some msg.aci.djb_private_key
  aci_identity_public := some msg.aci.djb_identity_key
  aci_service_id := some msg.aci.service_id
  pni_identity_private := some msg.pni.djb_private_key
  pni_identity_public := some msg.pni.djb_identity_key
  pni_service_id := some msg.pni.service_id
  encrypted_device_name := some linked.encrypted_name
  is_multi_device := true
  number := some msg.number
  profile_key := some linked.profile_key_b64
  storage_key := none
  registered := true }

theorem assignedAll_credentials (account : Account L.toHostCrate) (msg : ProvisionMessage)
    (linked : Account.Linked L) :
    assignedAll account (Account.credentials msg linked) = some (account.linked msg linked) := by
  have haep : ∀ (a : Account L.toHostCrate) rest,
      assignedAll a ((msg.account_entropy_pool.map (fun aep => (ACCOUNT_ENTROPY_POOL_KEY, some aep))).toList ++ rest) =
        assignedAll a rest := by
    intro a rest
    cases msg.account_entropy_pool with
    | none => rfl
    | some aep => exact assignedAll_cons (assigned_mirror (i := 16) rfl a _) rest
  unfold Account.credentials
  rw [List.append_assoc]
  simp only [List.cons_append, List.nil_append]
  rw [assignedAll_cons (assigned_mirror (i := 7) rfl _ _), assignedAll_cons (assigned_device_id _ _),
    assignedAll_cons (assigned_mirror (i := 0) rfl _ _), assignedAll_cons (assigned_mirror (i := 1) rfl _ _),
    assignedAll_cons (assigned_mirror (i := 2) rfl _ _), assignedAll_cons (assigned_mirror (i := 9) rfl _ _),
    assignedAll_cons (assigned_mirror (i := 10) rfl _ _), assignedAll_cons (assigned_mirror (i := 11) rfl _ _),
    assignedAll_cons (assigned_mirror (i := 4) rfl _ _), assignedAll_cons (assigned_mirror (i := 5) rfl _ _),
    assignedAll_cons (assigned_mirror (i := 6) rfl _ _), assignedAll_cons (assigned_mirror (i := 12) rfl _ _),
    haep, assignedAll_cons (assigned_mirror (i := 17) rfl _ _), assignedAll_cons (assigned_mirror (i := 18) rfl _ _),
    assignedAll_cons (assigned_mirror (i := 15) rfl _ _), assignedAll_cons (assigned_mirror (i := 19) rfl _ _),
    assignedAll_cons (assigned_mirror (i := 20) rfl _ _), assignedAll_cons (assigned_mirror (i := 21) rfl _ _),
    assignedAll_cons (assigned_mirror (i := 13) rfl _ _)]
  rfl

/-- What `url::Host` promises of a host: its text parses back, has no blanks around it and fits the reader. -/
structure HostCrate.Keeps (U : HostCrate) (host : U.Host) : Prop where
  parse : U.host_parse (U.host_to_string host) = some host
  trimmed : trim (U.host_to_string host) = U.host_to_string host
  fits : (utf8 (U.host_to_string host)).length ≤ AccountDict.READ_BUFFER

section Fresh

variable {τ : Type} (env : LinkEnv L τ) (host : L.Host) (senv : ServiceEnvironment) (p : Pddb)
  (outside : τ) (device_name : String) (msg : ProvisionMessage)

def made : Outcome pddbSignature Pddb (Except Error (Account L.toHostCrate)) :=
  (Account.new ACCOUNT_DICT host senv).exec Pddb.handler p

end Fresh

end Linked

section Starting

variable {L : LinkCrates}

def StartCall.With (c : MainWs.Credentials) : StartCall L → Prop
  | .spawn_replenish base_url aci device_id password => L.url_parse ("https://" ++ c.host) = some base_url ∧
      aci = c.aci_service_id ∧ device_id = c.device_id ∧ password = c.password
  | .spawn_main_ws credentials => credentials = c

def Account.StartsWith (account : Account L.toHostCrate) (c : MainWs.Credentials) : Prop :=
  ∀ (σ : Type) (h : Handler (startSignature L) σ) (s : σ), Ensures h account.start_receive s (fun _ _ es =>
    (∀ e ∈ es, e.call.With c) ∧ ∃ e ∈ es, e.call = .spawn_main_ws c)

end Starting

section Agreement

variable {L : LinkCrates} {τ : Type}

def linkedCredentials (msg : ProvisionMessage) (linked : Account.Linked L) (host : L.Host)
    (senv : ServiceEnvironment) : MainWs.Credentials where
  aci_service_id := msg.aci.service_id
  device_id := linked.response.device_id
  password := linked.password
  host := senv.chat_host (L.host_to_string host)

def authorizations (C : Crates) (info : AccountInfo) : List String :=
  let identifier := info.aci_service_id ++ "." ++ toString info.device_id
  [info.basic_auth C, "Basic " ++ MainWs.messageAuth info.aci_service_id info.device_id info.password,
    basic_auth_header identifier info.password]

/-- Every thread of the device, before and after a restart, is the device that the server registered. -/
structure Agrees (I : IdentityCrates L) (msg : ProvisionMessage) (linked : Account.Linked L) (key : L.PrivateKey)
    (host : L.Host) (senv : ServiceEnvironment) (d : Device L.toHostCrate τ) : Prop where
  running : d.account.StartsWith (linkedCredentials msg linked host senv)
  restarted : ∃ account, Reads (Account.read L.toHostCrate ACCOUNT_DICT) d.pddb (.ok account) ∧
    account.StartsWith (linkedCredentials msg linked host senv) ∧
    (linked.response.device_id ≠ 0 → account.is_registered = true)
  sending : ∃ info, Reads AccountInfo.read_from_pddb d.pddb (.ok info) ∧
    info.host = L.host_to_string host ∧ (':' ∉ msg.aci.service_id.toList → ∀ C : Crates, C.b64_encode = base64Encode →
      ∀ header ∈ authorizations C info, readBasic header =
        some (msg.aci.service_id ++ "." ++ toString linked.response.device_id, linked.password))
  address : ∀ dev, DeviceId.new linked.response.device_id = some dev →
    Reads local_protocol_address d.pddb (.ok ⟨msg.aci.service_id, dev⟩)
  registration_id : (PddbIdentityStore.get_local_registration_id.run Pddb.handler d.pddb).value =
    .ok linked.registration_id
  identity : ∀ bytes identity_key, L.b64_url_decode msg.aci.djb_identity_key = some bytes →
    I.identity_key_decode bytes = .ok identity_key →
      Reads (PddbIdentityStore.get_identity_key_pair I) d.pddb (.ok (identity_key, key))

variable {I : IdentityCrates L} {msg : ProvisionMessage} {linked : Account.Linked L} {host : L.Host}
  {senv : ServiceEnvironment} {p : Pddb}

end Agreement

section Phone

end Phone

end XousSignalClient
